import Spreadsheet.Proofs.Sheet.Memoization
import Spreadsheet.Proofs.Sheet.OutOfDate
import Spreadsheet.Proofs.Sheet.Remembering
import Spreadsheet.Proofs.Walk.Concurring

/-!
# Sheets that cannot be told apart

Two sheets with the same texts that settle the same values concur (`Sheet.Concurs`), whatever else
they remember. They give the same answer to every call (`Concurs.answersAlike`). A query leaves them
concurring, and so does an edit: it forgets the same values in both, and what it spares is settled
after it as it was before (`Concurs.of_spares`). So no calls tell them apart
(`Concurs.foldl_after`).
-/

namespace Spreadsheet.Sheet

open Relation Store

variable {s s' t t' : Sheet} {a : Address} {v : Value} {text : String} {stale : AddressSet}
  {kept : Address → Prop}

/-! ## Blank cells -/

/-- A blank cell inside the bounds is settled, with the empty value. -/
theorem Coherent.settled_blank_iff (h : s.Coherent) (hs : s.Sound) (inside : s.contains a = true)
    (blank : s.formula a = "") : s.store.Settled a v ↔ v = Value.empty := by
  have value : ∀ lookup, (s.store.cell a).expr.eval lookup = Value.empty := by
    intro lookup
    rw [(hs.linked.parsed a).expr, show (s.store.cell a).formula = "" from blank]
    exact Expr.eval.eq_2 _ _
  have cached_empty : ∀ v, (s.store.cell a).cached = some v → v = Value.empty := by
    intro v cached
    obtain ⟨lookup, -, rfl⟩ := h a v cached (not_reachesCycle_of_blank hs blank)
    rw [blank]
    exact Expr.eval.eq_2 _ _
  constructor
  · intro settled
    cases settled with
    | cached _ cached => exact cached_empty v cached
    | computed => exact value _
  · rintro rfl
    cases cached : (s.store.cell a).cached with
    | some v => exact .cached inside (cached_empty v cached ▸ cached)
    | none =>
      have reads_nothing : ∀ r, ¬s.store.Reads a r := fun r reads =>
        hs.linked.formula_ne_of_reads reads blank
      rw [← value fun _ => Value.empty]
      exact .computed inside cached (fun r hr => absurd hr.1 (reads_nothing r))
        fun r hr => absurd hr (reads_nothing r)

/-- So blank cells settle the same in any two sheets. -/
theorem Coherent.settled_of_blank (h : s.Coherent) (h' : s'.Coherent) (hs : s.Sound) (hs' : s'.Sound)
    (settled : s.store.Settled a v) (inside' : s'.contains a = true) (blank : s.formula a = "")
    (same : s'.formula a = s.formula a) : s'.store.Settled a v := by
  have empty := (h.settled_blank_iff hs settled.inside blank).1 settled
  exact (h'.settled_blank_iff hs' inside' (same.trans blank)).2 empty

/-! ## What an edit spares -/

namespace Spares

/-- What is remembered of a text after an edit was remembered before it, and is spared. -/
theorem settled_of_cached (spares : Spares s s' kept) (hs : s.Sound) (text : s'.formula a ≠ "")
    (cached : (s'.store.cell a).cached = some v) : kept a ∧ s.store.Settled a v := by
  have stored : a ∈ s'.store.entries := mem_of_formula_ne text
  have ha : kept a := by
    by_contra ha
    rcases spares.fresh a stored ha with none | blank
    · cases cached.symm.trans none
    · exact text (congrArg Cell.formula blank)
  refine ⟨ha, .cached (hs.inside a (spares.formula a ha ▸ text)) ?_⟩
  rw [← spares.cell a stored ha, cached]

/-- **What is settled of a spared address** is settled after the edit, too. -/
theorem settled (spares : Spares s s' kept) (hs : s.Sound) (hs' : s'.Sound) (coherent : s.Coherent)
    (coherent' : s'.Coherent) (settled : s.store.Settled a v) (ha : kept a)
    (inside' : s'.contains a = true) : s'.store.Settled a v := by
  induction settled with
  | @cached a v inside cached =>
    by_cases blank : s.formula a = ""
    · exact coherent.settled_of_blank coherent' hs hs' (.cached inside cached) inside' blank
        (spares.formula a ha)
    · have text : s'.formula a ≠ "" := spares.formula a ha ▸ blank
      have stored : a ∈ s'.store.entries := mem_of_formula_ne text
      exact .cached inside' (by rw [spares.cell a stored ha, cached])
  | @computed a lookup inside uncached references outside ih =>
    by_cases blank : s.formula a = ""
    · have settled : s.store.Settled a _ := .computed inside uncached references outside
      exact coherent.settled_of_blank coherent' hs hs' settled inside' blank (spares.formula a ha)
    · have text : s'.formula a ≠ "" := spares.formula a ha ▸ blank
      have stored : a ∈ s'.store.entries := mem_of_formula_ne text
      have cell := spares.cell a stored ha
      rw [← cell]
      refine .computed inside' (by rw [cell, uncached]) (fun r hr => ?_) fun r hr contained => ?_
      · have follows := (spares.follows hs hs' ha).1 hr
        exact ih r follows (spares.closed a r ha follows) hr.2
      · have reads := (spares.reads hs hs' ha).1 hr
        exact outside r reads ((spares.contains a r ha reads).symm.trans contained)

end Spares

/-! ## Sheets that concur -/

/-- The sheets have the same bounds and texts and settle the same values. -/
structure Concurs (s t : Sheet) : Prop where
  left : s.Sound
  right : t.Sound
  left_coherent : s.Coherent
  right_coherent : t.Coherent
  store : s.store.Concurs t.store

namespace Concurs

theorem symm (h : s.Concurs t) : t.Concurs s :=
  ⟨h.right, h.left, h.right_coherent, h.left_coherent, h.store.symm⟩

theorem bounds (h : s.Concurs t) : t.bounds = s.bounds := h.store.bounds

theorem formula (h : s.Concurs t) (a : Address) : t.formula a = s.formula a := h.store.formula a

theorem contains (h : s.Concurs t) (a : Address) : t.contains a = s.contains a := by
  rw [Sheet.contains, h.bounds, Sheet.contains]

theorem reads_eq (h : s.Concurs t) : t.store.Reads = s.store.Reads :=
  funext fun _ => funext fun _ => propext h.store.reads

/-- Sheets with the same texts concur if whatever one of them remembers of a text is settled in the
other. -/
theorem of_texts (hs : s.Sound) (ht : t.Sound) (coherent : s.Coherent) (coherent' : t.Coherent)
    (bounds : t.bounds = s.bounds) (formula : ∀ a, t.formula a = s.formula a)
    (remembered : ∀ a v, s.formula a ≠ "" → s.store.Remembered a v → t.store.Settled a v)
    (remembered' : ∀ a v, t.formula a ≠ "" → t.store.Remembered a v → s.store.Settled a v) :
    s.Concurs t := by
  refine ⟨hs, ht, coherent, coherent', .of_remembered hs.linked ht.linked bounds formula
    (fun a v known => ?_) fun a v known => ?_⟩
  · by_cases blank : s.formula a = ""
    · have inside' : t.contains a = true := (congrArg (·.contains a) bounds).trans known.inside
      exact coherent.settled_of_blank coherent' hs ht (.cached known.inside known.cached) inside'
        blank (formula a)
    · exact remembered a v blank known
  · by_cases blank : t.formula a = ""
    · have inside : s.contains a = true := (congrArg (·.contains a) bounds.symm).trans known.inside
      exact coherent'.settled_of_blank coherent ht hs (.cached known.inside known.cached) inside
        blank (formula a).symm
    · exact remembered' a v blank known

/-- What is remembered of a text after one of two edits that spare the same is settled after the
other. -/
theorem settled_of_spares (h : s.Concurs t) (spares : Spares s s' kept) (spares' : Spares t t' kept)
    (ht : t'.Sound) (coherent' : t'.Coherent) (bounds : t'.bounds = s'.bounds)
    (text : s'.formula a ≠ "") (remembered : s'.store.Remembered a v) : t'.store.Settled a v := by
  obtain ⟨inside, cached⟩ := remembered
  obtain ⟨ha, before⟩ := spares.settled_of_cached h.left text cached
  have inside' : t'.contains a = true := by
    rw [Sheet.contains, bounds]
    exact inside
  exact spares'.settled h.right ht h.right_coherent coherent' ((h.store.settled a v).2 before) ha
    inside'

/-- **Edits that spare the same** keep sheets concurring. -/
theorem of_spares (h : s.Concurs t) {stale' : AddressSet} (edit : s.Edit stale s')
    (edit' : t.Edit stale' t') (spares : Spares s s' kept) (spares' : Spares t t' kept)
    (bounds : t'.bounds = s'.bounds) (formula : ∀ a, t'.formula a = s'.formula a) :
    s'.Concurs t' := by
  have hs := h.left.edit edit
  have ht := h.right.edit edit'
  have coherent := h.left_coherent.edit h.left edit
  have coherent' := h.right_coherent.edit h.right edit'
  refine .of_texts hs ht coherent coherent' bounds formula (fun a v text remembered => ?_)
    fun a v text remembered => ?_
  · exact h.settled_of_spares spares spares' ht coherent' bounds text remembered
  · exact h.symm.settled_of_spares spares' spares hs coherent bounds.symm text remembered

/-! ## The calls -/

theorem value (h : s.Concurs t) (a : Address) :
    (t.value a).1 = (s.value a).1 ∧ (s.value a).2.Concurs (t.value a).2 where
  left := (h.store.value a).1
  right := {
    left := h.left.keeps (value_keeps s.store a)
    right := h.right.keeps (value_keeps t.store a)
    left_coherent := h.left_coherent.value h.left a
    right_coherent := h.right_coherent.value h.right a
    store := (h.store.value a).2 }

/-- The same text puts the same addresses out of date. -/
theorem set (h : s.Concurs t) (found : s.set a text = .ok (stale, s')) :
    ∃ t', t.set a text = .ok (stale, t') ∧ s'.Concurs t' := by
  have inside : s.contains a = true := (set_cases found).1
  have inside' : t.contains a = true := (h.contains a).trans inside
  obtain ⟨stale', t', found'⟩ := set_of_contains inside' text
  obtain rfl : stale' = stale := by
    obtain ⟨-, ⟨same, rfl, -⟩ | ⟨differ, -⟩⟩ := set_cases found
    · obtain ⟨-, ⟨-, rfl, -⟩ | ⟨differ, -⟩⟩ := set_cases found'
      · rfl
      · exact absurd ((h.formula a).trans same) differ
    · have differ' : t.formula a ≠ text := h.formula a ▸ differ
      refine Std.ExtTreeSet.ext_mem fun x => ?_
      rw [(h.right.mem_set_iff found' differ').1, (h.left.mem_set_iff found differ).1, h.reads_eq]
  refine ⟨t', found', h.of_spares (.set found) (.set found') (h.left.spares_set found)
    (h.right.spares_set found') ?_ fun b => ?_⟩
  · rw [bounds_set found', bounds_set found, h.bounds]
  · rw [← after_set found', ← after_set found, formula_after_set inside', formula_after_set inside,
      h.formula]

theorem extend (h : s.Concurs t) (rows columns : Nat) :
    (t.extend rows columns).1 = (s.extend rows columns).1 ∧
      (s.extend rows columns).2.Concurs (t.extend rows columns).2 := by
  have same : (t.extend rows columns).1 = (s.extend rows columns).1 :=
    Std.ExtTreeSet.ext_mem fun x => by
      rw [h.right.mem_extend_iff, h.left.mem_extend_iff, h.reads_eq, h.bounds]
  have spares' : Spares t (t.extend rows columns).2 _ := h.right.spares_extend
  rw [same] at spares'
  refine ⟨same, h.of_spares (.extend rows columns) (.extend rows columns) h.left.spares_extend
    spares' ?_ fun b => ?_⟩
  · rw [bounds_extend, bounds_extend, h.bounds]
  · rw [formula_extend, formula_extend, h.formula]

theorem shrink (h : s.Concurs t) (rows columns : Nat) :
    (t.shrink rows columns).1 = (s.shrink rows columns).1 ∧
      (s.shrink rows columns).2.Concurs (t.shrink rows columns).2 := by
  have same : t.shrinkStale rows columns = s.shrinkStale rows columns := by
    have reads : ∀ b, (t.store.resize b).Reads = (s.store.resize b).Reads := fun _ => h.reads_eq
    refine Std.ExtTreeSet.ext_mem fun x => ?_
    rw [shrinkStale, shrinkStale, (h.right.linked.resize _).mem_affected_iff,
      (h.left.linked.resize _).mem_affected_iff, h.bounds, reads]
    simp only [List.mem_filter, mem_cellsReading, h.reads_eq]
  have spares' : Spares t (t.shrink rows columns).2 _ := h.right.spares_shrink
  rw [same, h.bounds] at spares'
  refine ⟨Std.ExtTreeSet.ext_mem fun x => ?_, h.of_spares (.shrink rows columns)
    (.shrink rows columns) h.left.spares_shrink spares' ?_ fun b => ?_⟩
  · rw [mem_shrink, mem_shrink, same, h.bounds]
  · rw [bounds_shrink, bounds_shrink, h.bounds]
  · rw [formula_shrink, formula_shrink, h.formula, h.bounds]

/-- **Any call** leads from sheets that concur to sheets that concur. -/
theorem after (h : s.Concurs t) (c : Call) : (s.after c).Concurs (t.after c) := by
  cases c with
  | set a text =>
    cases found : s.set a text with
    | ok r =>
      obtain ⟨t', found', concurs⟩ := h.set found
      rwa [after_set found, after_set found']
    | error e =>
      cases found' : t.set a text with
      | ok r =>
        obtain ⟨s', accepted, -⟩ := h.symm.set found'
        cases found.symm.trans accepted
      | error e' =>
        rw [Sheet.after, Sheet.after, found, found']
        exact h
  | value a => exact (h.value a).2
  | extend rows columns => exact (h.extend rows columns).2
  | shrink rows columns => exact (h.shrink rows columns).2

/-- **Any calls** lead from sheets that concur to sheets that concur. -/
theorem foldl_after (h : s.Concurs t) (calls : List Call) :
    (calls.foldl Sheet.after s).Concurs (calls.foldl Sheet.after t) := by
  induction calls generalizing s t with
  | nil => exact h
  | cons c calls ih => exact ih (h.after c)

/-! ## The answers -/

section Answers

variable {α β : Type} {query : Sheet → β → α × Sheet}

/-- Queries that sheets which concur answer alike are answered alike one after the other. -/
theorem queryAll (h : s.Concurs t)
    (step : ∀ {s t : Sheet} (b : β), s.Concurs t →
      (query t b).1 = (query s b).1 ∧ (query s b).2.Concurs (query t b).2) (l : List β) :
    (queryAll query t l).1 = (queryAll query s l).1 ∧
      (queryAll query s l).2.Concurs (queryAll query t l).2 := by
  induction l generalizing s t with
  | nil => exact ⟨rfl, h⟩
  | cons b rest ih =>
    obtain ⟨first, concurs⟩ := step b h
    obtain ⟨others, concurs⟩ := ih concurs
    exact ⟨congrArg₂ List.cons first others, concurs⟩

end Answers

theorem display (h : s.Concurs t) (a : Address) :
    (t.display a).1 = (s.display a).1 ∧ (s.display a).2.Concurs (t.display a).2 :=
  ⟨congrArg Value.display (h.value a).1, (h.value a).2⟩

theorem isError (h : s.Concurs t) (a : Address) :
    (t.isError a).1 = (s.isError a).1 ∧ (s.isError a).2.Concurs (t.isError a).2 :=
  ⟨congrArg Value.isError (h.value a).1, (h.value a).2⟩

theorem rowLine (h : s.Concurs t) (row : Nat) :
    (t.rowLine row).1 = (s.rowLine row).1 ∧ (s.rowLine row).2.Concurs (t.rowLine row).2 := by
  have addresses : t.rowAddresses row = s.rowAddresses row := by
    rw [rowAddresses, rowAddresses, h.bounds]
  obtain ⟨texts, concurs⟩ := h.queryAll (fun a h => h.display a) (s.rowAddresses row)
  simp only [Sheet.rowLine, addresses, texts]
  exact ⟨trivial, concurs⟩

/-- The tables are the same. -/
theorem table (h : s.Concurs t) : t.table.1 = s.table.1 ∧ s.table.2.Concurs t.table.2 := by
  obtain ⟨rows, concurs⟩ := h.queryAll (fun row h => h.rowLine row) (List.range s.bounds.rows)
  simp only [Sheet.table, tableLines, h.bounds, rows]
  exact ⟨trivial, concurs⟩

theorem ask (h : s.Concurs t) (q : Query) :
    (t.ask q).1 = (s.ask q).1 ∧ (s.ask q).2.Concurs (t.ask q).2 := by
  cases q with
  | value a => exact ⟨congrArg Answer.value (h.value a).1, (h.value a).2⟩
  | display a => exact ⟨congrArg Answer.text (h.display a).1, (h.display a).2⟩
  | isError a => exact ⟨congrArg Answer.verdict (h.isError a).1, (h.isError a).2⟩
  | table => exact ⟨congrArg Answer.text h.table.1, h.table.2⟩

end Concurs

/-- The sheets give the same answers, to queries as well as to edits. -/
structure AnswersAlike (s t : Sheet) : Prop where
  bounds : t.bounds = s.bounds
  formula : ∀ a, t.formula a = s.formula a
  ask : ∀ q, (t.ask q).1 = (s.ask q).1
  set : ∀ a text, (t.set a text).map Prod.fst = (s.set a text).map Prod.fst
  extend : ∀ rows columns, (t.extend rows columns).1 = (s.extend rows columns).1
  shrink : ∀ rows columns, (t.shrink rows columns).1 = (s.shrink rows columns).1

/-- **Sheets that concur answer alike.** -/
theorem Concurs.answersAlike (h : s.Concurs t) : s.AnswersAlike t where
  bounds := h.bounds
  formula := h.formula
  ask q := (h.ask q).1
  set a text := by
    cases inside : s.contains a with
    | true =>
      obtain ⟨stale, s', found⟩ := set_of_contains inside text
      obtain ⟨t', found', -⟩ := h.set found
      rw [found, found']
      rfl
    | false =>
      have refused : s.set a text = .error (.outOfBounds a s.bounds) := by simp [Sheet.set, inside]
      have refused' : t.set a text = .error (.outOfBounds a t.bounds) := by
        simp [Sheet.set, h.contains, inside]
      rw [refused, refused', h.bounds]
  extend rows columns := (h.extend rows columns).1
  shrink rows columns := (h.shrink rows columns).1

end Spreadsheet.Sheet
