import Spreadsheet.Proofs.Walk.Run

/-!
# The cycles that a walk meets

A walk passes over the cells that have values and enters the others, so it does not meet every cycle
that the asked cell reaches: the cells of the cycle, and those that lead to it, have to be without
values (`Walk.MeetsCycle`). A walk that ends at a cycle has met such a one (`Closed.meetsCycle`).
-/

namespace Spreadsheet

open Relation

/-- The formula at `a` reads `b`, which lies inside the bounds and has no value yet. -/
def Store.Awaits (s : Store) (a b : Address) : Prop :=
  s.Follows a b ∧ (s.cell b).cached = none

namespace Walk

variable {s : Store} {P : Address → Value → Prop} {root target a c : Address} {w : Walk}
  {fs : List Frame}

/-- Cells without values, the given one first, lead to a cycle of such cells. -/
def MeetsCycle (s : Store) (a : Address) : Prop :=
  (s.cell a).cached = none ∧ ∃ b, ReflTransGen s.Awaits a b ∧ TransGen s.Awaits b b

/-- A cell from which a cycle is met reads another one. -/
theorem MeetsCycle.exists_follows (h : MeetsCycle s a) : ∃ b, s.Follows a b ∧ MeetsCycle s b := by
  obtain ⟨-, c, path, cycle⟩ := h
  rcases ReflTransGen.cases_head path with rfl | ⟨b, first, rest⟩
  · obtain ⟨b, first, back⟩ := TransGen.head'_iff.1 cycle
    exact ⟨b, first.1, first.2, _, back, cycle⟩
  · exact ⟨b, first.1, first.2, c, rest, cycle⟩

theorem MeetsCycle.reachesCycle (h : MeetsCycle s a) : ReachesCycle s a := by
  obtain ⟨-, b, path, cycle⟩ := h
  have follows : ∀ x y, s.Awaits x y → s.Follows x y := fun _ _ => And.left
  exact ⟨b, ReflTransGen.mono follows _ _ path, TransGen.mono follows _ _ cycle⟩

/-- No value that is computed belongs to a cell from which a cycle is met. -/
theorem lawMeets : s.ValueLaw fun a _ => ¬MeetsCycle s a where
  cached a v _ cached meets := by
    rw [meets.1] at cached
    cases cached
  computed a lookup _ _ inside _ meets := by
    obtain ⟨b, follows, meets⟩ := meets.exists_follows
    exact inside b follows meets

namespace Closed

/-- The steps of a path go to cells without values. -/
theorem awaits (h : Closed s P root target w c fs) (x y : Address) (hy : y = c ∨ y ∈ path fs)
    (follows : s.Follows x y) : s.Awaits x y := by
  have entered := (isOpen_iff.1 ((h.open_iff y).2 hy)).1
  exact ⟨follows, (h.progress.entered y entered).uncached⟩

/-- The last cell entered lies on a cycle of cells without values. -/
theorem cycle_awaits (h : Closed s P root target w c fs) : TransGen s.Awaits c c := by
  have on_path := (h.open_iff target).1 h.target_open
  have closes : s.Awaits c target := h.awaits c target on_path h.follows_target
  rcases on_path with rfl | on_path
  · exact TransGen.single closes
  · exact TransGen.head closes (h.nested.chain_path h.awaits on_path)

/-- From every open cell the cycle is met. -/
theorem meetsCycle_of_open (h : Closed s P root target w c fs) (ha : w.isOpen a = true) :
    MeetsCycle s a := by
  refine ⟨(h.progress.entered a (isOpen_iff.1 ha).1).uncached, c, ?_, h.cycle_awaits⟩
  rcases (h.open_iff a).1 ha with rfl | on_path
  · exact ReflTransGen.refl
  · exact (h.nested.chain_path h.awaits on_path).to_reflTransGen

/-- **A walk that ends at a cycle has met it.** -/
theorem meetsCycle (h : Closed s P root target w c fs) (uncached : (s.cell root).cached = none) :
    MeetsCycle s root :=
  ⟨uncached, c, h.nested.chain_next h.awaits, h.cycle_awaits⟩

end Closed

end Walk

end Spreadsheet
