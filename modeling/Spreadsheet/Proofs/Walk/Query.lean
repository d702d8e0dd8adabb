import Spreadsheet.Proofs.Walk.Awaited
import Spreadsheet.Proofs.Walk.Rings

/-!
# Queries

A query answers what is cached, or runs a walk and keeps what the walk computed. So it changes
nothing but values (`value_keeps`), and the values that it answers and keeps have every property
that a law of the store gives them, except in cells that reach a cycle (`value_cases`, `value_law`,
`cached_value`). A query that finds a cycle keeps the cycle error for the cells of the ring and the
asked one (`Detects.cached_value`), and it finds one only if one can be reached
(`Detects.reachesCycle`).
-/

namespace Spreadsheet.Store

open Relation

variable {s : Store} {P : Address → Value → Prop} {a b : Address}

/-! ## The cases of a query -/

theorem value_of_outside (h : s.bounds.contains a = false) : s.value a = (invalidAddress a, s) := by
  simp [value, h]

theorem value_of_cached (inside : s.bounds.contains a = true) {v : Value}
    (cached : (s.cell a).cached = some v) : s.value a = (v, s) := by
  simp [value, inside, cached]

theorem value_of_finished (inside : s.bounds.contains a = true) (uncached : (s.cell a).cached = none)
    {w : Walk} (ends : (Walk.start a).run s = .finished w) :
    s.value a = (w.lookup s a, s.cacheAll w.computed) := by
  simp [value, inside, uncached, ends]

theorem value_of_cycle (inside : s.bounds.contains a = true) (uncached : (s.cell a).cached = none)
    {w : Walk} {target : Address} (ends : (Walk.start a).run s = .cycle target w) :
    s.value a = (cycleError,
      (s.cacheAll w.computed).cacheCycle (.ofList (a :: Walk.cycleCells target w))) := by
  simp [value, inside, uncached, ends]

theorem mem_marked {target : Address} {w : Walk} :
    b ∈ (Std.ExtTreeSet.ofList (a :: Walk.cycleCells target w) : AddressSet) ↔
      b = a ∨ b ∈ Walk.cycleCells target w := by
  rw [Std.ExtTreeSet.mem_ofList, List.contains_iff_mem, List.mem_cons]

/-! ## What a query changes -/

namespace Keeps

theorem reads {t : Store} (h : s.Keeps t) : t.Reads a b ↔ s.Reads a b := by
  rw [Reads, Cell.references_congr (h.cell a), Reads]

theorem follows {t : Store} (h : s.Keeps t) : t.Follows a b ↔ s.Follows a b := by
  rw [Follows, h.reads, h.bounds, Follows]

theorem reachesCycle {t : Store} (h : s.Keeps t) :
    Walk.ReachesCycle t a ↔ Walk.ReachesCycle s a :=
  Walk.reachesCycle_congr fun _ _ => h.follows

end Keeps

/-- What a walk computes belongs to stored cells. -/
theorem mem_of_computed {w : Walk} (h : Walk.Progress s P a w) (hb : b ∈ w.computed) :
    b ∈ s.entries :=
  mem_of_cached_eq_none (h.entered b (h.computed b hb)).uncached

/-- No law is needed to say how a walk ends. -/
theorem valueLaw_true : s.ValueLaw fun _ _ => True where
  cached _ _ _ _ := trivial
  computed _ _ _ _ _ _ := trivial

/-- **A query changes nothing but values.** -/
theorem value_keeps (s : Store) (a : Address) : s.Keeps (s.value a).2 := by
  by_cases inside : s.bounds.contains a = true
  · cases cached : (s.cell a).cached with
    | some v =>
      rw [value_of_cached inside cached]
      exact Keeps.refl s
    | none =>
      generalize ends : (Walk.start a).run s = r
      have ended := Walk.run_ends (valueLaw_true (s := s)) inside
      rw [ends] at ended
      cases ended with
      | finished known progress =>
        rw [value_of_finished inside cached ends]
        exact keeps_cacheAll fun b hb => mem_of_computed progress hb
      | @cycle w target c fs closed =>
        rw [value_of_cycle inside cached ends]
        have kept : s.Keeps (s.cacheAll w.computed) :=
          keeps_cacheAll fun b hb => mem_of_computed closed.progress hb
        refine kept.trans (keeps_cacheCycle fun b hb => (kept.stored b).2 ?_)
        rcases mem_marked.1 hb with rfl | hb
        · exact mem_of_cached_eq_none cached
        · have entered := (Walk.isOpen_iff.1 (List.mem_filter.1 hb).2).1
          exact mem_of_cached_eq_none (closed.progress.entered b entered).uncached
  · rw [value_of_outside (by simpa using inside)]
    exact Keeps.refl s

/-! ## What a query answers and keeps -/

/-- **The values after a query** are those before it, values with the property, and the cycle error
for cells that reach a cycle. -/
theorem cached_value (law : s.ValueLaw P) {v : Value}
    (h : ((s.value a).2.cell b).cached = some v) :
    (s.cell b).cached = some v ∨ P b v ∨ v = cycleError ∧ Walk.ReachesCycle s b := by
  by_cases inside : s.bounds.contains a = true
  · cases cached : (s.cell a).cached with
    | some v' =>
      rw [value_of_cached inside cached] at h
      exact Or.inl h
    | none =>
      generalize ends : (Walk.start a).run s = r
      have ended := Walk.run_ends law inside
      rw [ends] at ended
      have kept : ∀ {w : Walk}, Walk.Progress s P a w →
          ((s.cacheAll w.computed).cell b).cached = some v → (s.cell b).cached = some v ∨ P b v := by
        intro w progress h
        rw [cached_cacheAll] at h
        split at h
        · rename_i v' computed
          exact Or.inr (progress.values b v (computed.trans h))
        · exact Or.inl h
      cases ended with
      | finished known progress =>
        rw [value_of_finished inside cached ends] at h
        exact (kept progress h).imp id Or.inl
      | @cycle w target c fs closed =>
        rw [value_of_cycle inside cached ends] at h
        change ((cacheCycle _ _).cell b).cached = some v at h
        rw [cached_cacheCycle] at h
        split at h
        · rename_i marked
          refine Or.inr (Or.inr ⟨(Option.some.inj h).symm, ?_⟩)
          rcases mem_marked.1 marked with rfl | on_cycle
          · exact ⟨target, closed.reaches_target, closed.onCycle_target⟩
          · exact ⟨b, ReflTransGen.refl, closed.onCycle_of_mem on_cycle⟩
        · exact (kept closed.progress h).imp id Or.inl
  · rw [value_of_outside (by simpa using inside)] at h
    exact Or.inl h

/-- **The answer of a query** has the property, or it is the cycle error and the query met a
cycle. -/
theorem value_cases (law : s.ValueLaw P) (inside : s.bounds.contains a = true) :
    P a (s.value a).1 ∨ (s.value a).1 = cycleError ∧ Walk.MeetsCycle s a := by
  cases cached : (s.cell a).cached with
  | some v =>
    rw [value_of_cached inside cached]
    exact Or.inl (law.cached a v inside cached)
  | none =>
    generalize ends : (Walk.start a).run s = r
    have ended := Walk.run_ends law inside
    rw [ends] at ended
    cases ended with
    | finished known progress =>
      rw [value_of_finished inside cached ends]
      exact Or.inl (progress.known_value law inside known)
    | cycle closed =>
      rw [value_of_cycle inside cached ends]
      exact Or.inr ⟨rfl, closed.meetsCycle cached⟩

/-- The cycle error is answered for a cell that reaches a cycle only. -/
theorem value_law (law : s.ValueLaw P) (inside : s.bounds.contains a = true) :
    P a (s.value a).1 ∨ (s.value a).1 = cycleError ∧ Walk.ReachesCycle s a :=
  (value_cases law inside).imp_right fun ⟨answer, meets⟩ => ⟨answer, meets.reachesCycle⟩

/-! ## Queries that find a cycle -/

/-- The query for `a` runs a walk, and the walk `w` has come to a cell that reads the open cell
`target`. -/
structure Detects (s : Store) (a target : Address) (w : Walk) : Prop where
  inside : s.bounds.contains a = true
  uncached : (s.cell a).cached = none
  ends : (Walk.start a).run s = .cycle target w

namespace Detects

variable {s : Store} {a b target : Address} {w : Walk}

theorem closed (h : s.Detects a target w) :
    ∃ c fs, Walk.Closed s (fun _ _ => True) a target w c fs := by
  have ended := Walk.run_ends (valueLaw_true (s := s)) h.inside
  rw [h.ends] at ended
  cases ended with
  | cycle closed => exact ⟨_, _, closed⟩

/-- A query finds a cycle only if one can be reached. -/
theorem reachesCycle (h : s.Detects a target w) : Walk.ReachesCycle s a := by
  obtain ⟨c, fs, closed⟩ := h.closed
  exact ⟨target, closed.reaches_target, closed.onCycle_target⟩

/-- The cycle error is kept for the cells of the cycle and the asked cell; all others have the
values that the walk knows. -/
theorem cached_value (h : s.Detects a target w) : ((s.value a).2.cell b).cached =
    if b = a ∨ b ∈ Walk.cycleCells target w then some cycleError else w.known? s b := by
  rw [value_of_cycle h.inside h.uncached h.ends, cached_cacheCycle, cached_cacheAll]
  simp only [mem_marked]
  rfl

end Detects

end Spreadsheet.Store
