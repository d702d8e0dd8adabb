import Mathlib
import Spreadsheet.Proofs.Sheet.History
import Spreadsheet.Proofs.Walk.Marked
import Spreadsheet.Proofs.Walk.Resolution
import Spreadsheet.Sheet.Table

/-!
# Queries only remember

A query keeps values for cells that had none and changes nothing else (`Store.Remembers`), whether
it asks for one value or for the whole table. The asked cell has its value kept, so the same query
asked again answers the same and leaves the sheet as it is, whatever was asked in between
(`Sheet.Repeatable`). Both are shown for a single value and pass on to all that is put together from
queries, in particular to lists of them (`Sheet.queries_only_remember`).
-/

namespace Spreadsheet

namespace Store

open Walk

variable {s t u : Store} {a b : Address} {v : Value}

/-- The second store is the first one with more values: they differ in values only, and each value
of the first is one of the second. -/
structure Remembers (s t : Store) : Prop where
  keeps : s.Keeps t
  cached : ∀ a v, (s.cell a).cached = some v → (t.cell a).cached = some v

namespace Remembers

theorem refl (s : Store) : s.Remembers s := ⟨.refl s, fun _ _ => id⟩

theorem trans (h : s.Remembers t) (h' : t.Remembers u) : s.Remembers u :=
  ⟨h.keeps.trans h'.keeps, fun a v cached => h'.cached a v (h.cached a v cached)⟩

end Remembers

/-! ## One query -/

/-- A query gives values to cells without one only. -/
theorem remembers_value (s : Store) (a : Address) : s.Remembers (s.value a).2 where
  keeps := value_keeps s a
  cached b v cached := by
    obtain ⟨marked, ring, marking⟩ := value_marking s a
    by_cases hb : marked b
    · cases cached.symm.trans (marking.uncached b hb)
    · rcases marking.others b hb with same | ⟨uncached, -⟩
      · rw [same, cached]
      · cases cached.symm.trans uncached

/-- The answer of a query is kept for the asked cell. -/
theorem cached_asked (inside : s.bounds.contains a = true) :
    ((s.value a).2.cell a).cached = some (s.value a).1 := by
  cases cached : (s.cell a).cached with
  | some v => rw [value_of_cached inside cached, cached]
  | none =>
    cases ends : (start a).run s with
    | finished w =>
      have kept : ((s.cacheAll w.computed).cell a).cached = w.known? s a := cached_cacheAll _
      obtain ⟨v, known⟩ := Option.isSome_iff_exists.1 (knows_of_finished inside ends)
      rw [value_of_finished inside cached ends, kept, known, lookup, if_pos inside, known,
        Option.getD_some]
    | cycle target w =>
      have detects : s.Detects a target w := ⟨inside, cached, ends⟩
      rw [detects.cached_value, if_pos (Or.inl rfl), value_of_cycle inside cached ends]

/-- **A repeated query** answers the same and leaves the store as it is. -/
theorem value_again (h : (s.value a).2.Remembers t) : t.value a = ((s.value a).1, t) := by
  have bounds : t.bounds = s.bounds := h.keeps.bounds.trans (value_keeps s a).bounds
  cases inside : s.bounds.contains a with
  | true =>
    have kept := h.cached a _ (cached_asked inside)
    exact value_of_cached (by rw [bounds, inside]) kept
  | false =>
    rw [value_of_outside inside, value_of_outside (by rw [bounds, inside])]

end Store

namespace Sheet

variable {s t : Sheet} {α β : Type}

/-! ## Queries that can be repeated -/

/-- A query only remembers, and asked again it answers the same and changes nothing, as long as
what it remembered is kept. -/
structure Repeatable (query : Sheet → β → α × Sheet) : Prop where
  remembers : ∀ (s : Sheet) (b : β), s.store.Remembers (query s b).2.store
  again : ∀ (s : Sheet) (b : β) (t : Sheet), (query s b).2.store.Remembers t.store →
    query t b = ((query s b).1, t)

namespace Repeatable

variable {query : Sheet → β → α × Sheet}

/-- The bounds of a sheet that keeps what a query remembered. -/
theorem bounds_eq (h : Repeatable query) {b : β}
    (kept : (query s b).2.store.Remembers t.store) : t.bounds = s.bounds :=
  kept.keeps.bounds.trans (h.remembers s b).keeps.bounds

/-- What is made of an answer alone can be repeated. -/
theorem map {γ : Type} (f : α → γ) (h : Repeatable query) :
    Repeatable fun s b => (f (query s b).1, (query s b).2) where
  remembers := h.remembers
  again s b t kept := by rw [h.again s b t kept]

theorem remembers_queryAll (h : Repeatable query) (s : Sheet) (l : List β) :
    s.store.Remembers (queryAll query s l).2.store := by
  induction l generalizing s with
  | nil => exact .refl _
  | cons b l ih => exact (h.remembers s b).trans (ih _)

/-- Queries that can be repeated can be repeated one after the other. -/
protected theorem queryAll (h : Repeatable query) : Repeatable (queryAll query) where
  remembers := h.remembers_queryAll
  again s l t kept := by
    induction l generalizing s with
    | nil => rfl
    | cons b l ih =>
      -- what the first query remembered is kept by the others
      have first := h.again s b t ((h.remembers_queryAll _ l).trans kept)
      have others : queryAll query t l = ((queryAll query (query s b).2 l).1, t) := ih _ kept
      simp only [queryAll, first, others]

end Repeatable

/-- The value of a cell. -/
theorem repeatable_value : Repeatable value where
  remembers s a := Store.remembers_value s.store a
  again s a t kept := by
    have again : t.store.value a = ((s.store.value a).1, t.store) := Store.value_again kept
    rw [value, again]
    rfl

theorem repeatable_display : Repeatable display := repeatable_value.map Value.display

theorem repeatable_isError : Repeatable isError := repeatable_value.map Value.isError

theorem repeatable_rowLine : Repeatable rowLine where
  remembers s row := repeatable_display.queryAll.remembers s (s.rowAddresses row)
  again s row t kept := by
    have bounds : t.bounds = s.bounds := repeatable_display.queryAll.bounds_eq kept
    have addresses : t.rowAddresses row = s.rowAddresses row := by
      rw [rowAddresses, rowAddresses, bounds]
    have texts := repeatable_display.queryAll.again s _ t kept
    rw [rowLine, addresses, texts]
    rfl

/-- The table of a sheet. -/
theorem repeatable_table : Repeatable fun s (_ : Unit) => s.table where
  remembers s _ := repeatable_rowLine.queryAll.remembers s (List.range s.bounds.rows)
  again s _ t kept := by
    have bounds : t.bounds = s.bounds := repeatable_rowLine.queryAll.bounds_eq kept
    have rows := repeatable_rowLine.queryAll.again s _ t kept
    rw [table, tableLines, bounds, rows]
    rfl

/-! ## All queries -/

/-- A query of a sheet. -/
inductive Query where
  | value (a : Address)
  | display (a : Address)
  | isError (a : Address)
  | table

/-- What a query answers. -/
inductive Answer where
  | value (v : Value)
  | text (s : String)
  | verdict (b : Bool)

/-- The answer of a query, and the sheet that remembers what was computed for it. -/
def ask (s : Sheet) : Query → Answer × Sheet
  | .value a => (.value (s.value a).1, (s.value a).2)
  | .display a => (.text (s.display a).1, (s.display a).2)
  | .isError a => (.verdict (s.isError a).1, (s.isError a).2)
  | .table => (.text s.table.1, s.table.2)

theorem repeatable_ask : Repeatable ask where
  remembers s q := by
    cases q with
    | value a => exact repeatable_value.remembers s a
    | display a => exact repeatable_display.remembers s a
    | isError a => exact repeatable_isError.remembers s a
    | table => exact repeatable_table.remembers s ()
  again s q t kept := by
    cases q with
    | value a => exact (repeatable_value.map Answer.value).again s a t kept
    | display a => exact (repeatable_display.map Answer.text).again s a t kept
    | isError a => exact (repeatable_isError.map Answer.verdict).again s a t kept
    | table => exact (repeatable_table.map Answer.text).again s () t kept

/-- The sheet after some queries, asked in order. -/
def asked (s : Sheet) (queries : List Query) : Sheet := (queryAll ask s queries).2

theorem remembers_asked (s : Sheet) (queries : List Query) :
    s.store.Remembers (s.asked queries).store :=
  repeatable_ask.remembers_queryAll s queries

/-- **Queries only remember.** After any queries, the bounds, the stored addresses, the texts with
their expressions and references, and the dependants are those before them, and every value that was
remembered is still remembered. After a query for an address inside the bounds its answer is
remembered for this address, whatever else is asked behind it. And any query that is repeated, with
whatever queries in between, answers the same and leaves the sheet exactly as it is. -/
theorem queries_only_remember (s : Sheet) (queries : List Query) :
    ((s.asked queries).bounds = s.bounds ∧
      (∀ a, a ∈ (s.asked queries).store.entries ↔ a ∈ s.store.entries) ∧
      ∀ a, (s.asked queries).formula a = s.formula a ∧
        ((s.asked queries).store.cell a).expr = (s.store.cell a).expr ∧
        ((s.asked queries).store.cell a).references = (s.store.cell a).references ∧
        (s.asked queries).store.dependants a = s.store.dependants a ∧
        ∀ v, (s.store.cell a).cached = some v →
          ((s.asked queries).store.cell a).cached = some v) ∧
    (∀ a, s.contains a = true →
      (((s.value a).2.asked queries).store.cell a).cached = some (s.value a).1) ∧
    ∀ q, ((s.ask q).2.asked queries).ask q = ((s.ask q).1, (s.ask q).2.asked queries) := by
  refine ⟨?_, fun a inside => ?_, fun q => ?_⟩
  · obtain ⟨keeps, cached⟩ := s.remembers_asked queries
    exact ⟨keeps.bounds, keeps.stored, fun a => ⟨Cell.formula_congr (keeps.cell a),
      Cell.expr_congr (keeps.cell a), Cell.references_congr (keeps.cell a), keeps.dependants a,
      cached a⟩⟩
  · exact ((s.value a).2.remembers_asked queries).cached a _ (Store.cached_asked inside)
  · exact repeatable_ask.again s q _ ((s.ask q).2.remembers_asked queries)

/-- The error of a cycle that a query found is kept by later queries, and a table that shows it is
the same again. -/
theorem queries_only_remember_cycle :
    let s := (((empty 2 2).after (.set ⟨0, 0⟩ "=B1")).after (.set ⟨0, 1⟩ "=-A1")).after
      (.value ⟨0, 1⟩)
    ((s.store.cell ⟨0, 0⟩).cached = some cycleError ∧
        ((s.asked [.table, .value ⟨1, 1⟩]).store.cell ⟨0, 0⟩).cached = some cycleError) ∧
      (s.contains ⟨1, 1⟩ = true ∧
        (((s.value ⟨1, 1⟩).2.asked [.table]).store.cell ⟨1, 1⟩).cached =
          some (s.value ⟨1, 1⟩).1) ∧
      ((s.ask .table).2.asked [.isError ⟨0, 0⟩]).ask .table =
        ((s.ask .table).1, (s.ask .table).2.asked [.isError ⟨0, 0⟩]) := by
  intro s
  have cached : (s.store.cell ⟨0, 0⟩).cached = some cycleError := by
    unfold s
    cbv
  have inside : s.contains ⟨1, 1⟩ = true := by
    unfold s
    cbv
  obtain ⟨⟨-, -, kept⟩, -, -⟩ := queries_only_remember s [.table, .value ⟨1, 1⟩]
  obtain ⟨-, answered, -⟩ := queries_only_remember s [.table]
  obtain ⟨-, -, again⟩ := queries_only_remember s [.isError ⟨0, 0⟩]
  exact ⟨⟨cached, (kept ⟨0, 0⟩).2.2.2.2 _ cached⟩, ⟨inside, answered ⟨1, 1⟩ inside⟩, again .table⟩

end Sheet

end Spreadsheet
