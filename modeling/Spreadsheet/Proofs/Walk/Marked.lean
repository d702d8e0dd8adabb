import Spreadsheet.Proofs.Walk.Query

/-!
# The cells that a query marks

A query that meets a cycle keeps the cycle error for the asked cell and for a ring of cells, each of
which follows another one of the ring (`Store.Marking`). Any other value that it keeps belongs to a
cell from which no cycle is met. What a query marks has no value before.
-/

namespace Spreadsheet

open Relation

namespace Store

open Walk

variable {s t : Store} {marked ring : Address → Prop} {a b : Address}

/-- What the values of a store become by a query: the marked cells get the cycle error, a ring of
them on account of its references, and the others because they reach the ring. -/
structure Marking (s t : Store) (marked ring : Address → Prop) : Prop where
  subset : ∀ b, ring b → marked b
  onCycle : ∀ b, ring b → OnCycle s b
  next : ∀ b, ring b → ∃ d, ring d ∧ s.Follows b d
  reaches : ∀ b, marked b → ∃ d, ring d ∧ ReflTransGen s.Follows b d
  uncached : ∀ b, marked b → (s.cell b).cached = none
  stated : ∀ b, marked b → (t.cell b).cached = some cycleError
  others : ∀ b, ¬marked b → (t.cell b).cached = (s.cell b).cached ∨
    (s.cell b).cached = none ∧ ¬MeetsCycle s b

/-- Without a cycle, nothing is marked. -/
theorem marking_none (h : ∀ b, (t.cell b).cached = (s.cell b).cached ∨
    (s.cell b).cached = none ∧ ¬MeetsCycle s b) :
    Marking s t (fun _ => False) fun _ => False where
  subset _ ring := ring
  onCycle _ ring := ring.elim
  next _ ring := ring.elim
  reaches _ marked := marked.elim
  uncached _ marked := marked.elim
  stated _ marked := marked.elim
  others b _ := h b

/-- What a walk has computed belongs to cells from which no cycle is met. -/
theorem cached_cacheAll_cases {w : Walk} (progress : Progress s (fun a _ => ¬MeetsCycle s a) a w)
    (b : Address) : ((s.cacheAll w.computed).cell b).cached = (s.cell b).cached ∨
      (s.cell b).cached = none ∧ ¬MeetsCycle s b := by
  rw [cached_cacheAll]
  split
  · rename_i v found
    have computed : b ∈ w.computed := by
      rw [Std.ExtTreeMap.mem_iff_isSome_getElem?, found]
      rfl
    exact Or.inr ⟨(progress.entered b (progress.computed b computed)).uncached,
      progress.values b v found⟩
  · exact Or.inl rfl

/-- **Every query** marks a ring and the asked cell, or nothing. -/
theorem value_marking (s : Store) (a : Address) :
    ∃ marked ring, Marking s (s.value a).2 marked ring := by
  by_cases inside : s.bounds.contains a = true
  · cases cached : (s.cell a).cached with
    | some v =>
      rw [value_of_cached inside cached]
      exact ⟨_, _, marking_none fun _ => Or.inl rfl⟩
    | none =>
      generalize ends : (Walk.start a).run s = r
      have ended := Walk.run_ends (lawMeets (s := s)) inside
      rw [ends] at ended
      cases ended with
      | finished known progress =>
        rw [value_of_finished inside cached ends]
        exact ⟨_, _, marking_none (cached_cacheAll_cases progress)⟩
      | @cycle w target c fs closed =>
        rw [value_of_cycle inside cached ends]
        refine ⟨fun b => b = a ∨ b ∈ cycleCells target w, fun b => b ∈ cycleCells target w, ?_⟩
        exact {
          subset := fun b hb => Or.inr hb
          onCycle := fun b hb => closed.onCycle_of_mem hb
          next := fun b hb => by
            obtain ⟨d, hd, follows⟩ := closed.ring.exists_next (closed.mem_ring_iff.2 hb)
            exact ⟨d, closed.mem_ring_iff.1 hd, follows⟩
          reaches := by
            rintro b (rfl | hb)
            · exact ⟨target, closed.mem_ring_iff.1 closed.ring.first_mem, closed.reaches_target⟩
            · exact ⟨b, hb, ReflTransGen.refl⟩
          uncached := by
            rintro b (rfl | hb)
            · exact cached
            · have entered := (isOpen_iff.1 (List.mem_filter.1 hb).2).1
              exact (closed.progress.entered b entered).uncached
          stated := fun b hb => by
            rw [cached_cacheCycle, if_pos (mem_marked.2 hb)]
          others := fun b hb => by
            rw [cached_cacheCycle, if_neg (mt mem_marked.1 hb)]
            exact cached_cacheAll_cases closed.progress b }
  · rw [value_of_outside (by simpa using inside)]
    exact ⟨_, _, marking_none fun _ => Or.inl rfl⟩

end Store

end Spreadsheet
