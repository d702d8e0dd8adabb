import Mathlib.Data.List.Chain
import Mathlib.Data.List.Nodup
import Spreadsheet.Proofs.Walk.Run

/-!
# The cycle that a walk finds

The stack of a walk holds cells that wait beside those that are open, and a cell may come several
times in it. But a cell that waits above an open one is open itself only if it was entered further
up (`Nested.mem_downTo_iff`). So the open cells from the target of a cycle to the top of the stack
are those of the path (`Closed.mem_cycleCells_iff`), and they form a ring: a simple cycle of
references inside the bounds (`Closed.ring`).
-/

namespace Spreadsheet

open Relation

namespace Store

/-- The list is a simple cycle of references inside the bounds: each of its cells reads the next
one, and the last one reads the first. -/
structure Ring (s : Store) (cells : List Address) (first last : Address) : Prop where
  starts : cells.head? = some first
  ends : cells.getLast? = some last
  nodup : cells.Nodup
  chain : cells.IsChain s.Follows
  closes : s.Follows last first

namespace Ring

variable {s : Store} {cells : List Address} {first last a : Address}

theorem first_mem (h : s.Ring cells first last) : first ∈ cells := List.mem_of_head? h.starts

/-- The first cell of a ring reaches all of them. -/
theorem first_reaches (h : s.Ring cells first last) (ha : a ∈ cells) :
    ReflTransGen s.Follows first a := by
  obtain ⟨rest, rfl⟩ := List.head?_eq_some_iff.1 h.starts
  rcases List.mem_cons.1 ha with rfl | ha
  · exact ReflTransGen.refl
  · exact (h.chain.imp fun _ _ => ReflTransGen.single).rel_cons ha

/-- Each cell of a ring reads one of them. -/
theorem exists_next (h : s.Ring cells first last) (ha : a ∈ cells) :
    ∃ b ∈ cells, s.Follows a b := by
  obtain ⟨before, behind, rfl⟩ := List.append_of_mem ha
  cases behind with
  | nil =>
    obtain rfl : a = last := by simpa using h.ends
    exact ⟨first, h.first_mem, h.closes⟩
  | cons b behind => exact ⟨b, by simp, (List.isChain_append_cons_cons.1 h.chain).2.1⟩

end Ring

end Store

namespace Walk

variable {s : Store} {P : Address → Value → Prop} {root target a c : Address} {w : Walk}
  {next : Option Address} {fs : List Frame}

/-! ## The part of a list down to a member -/

theorem isPrefix_downTo (a : Address) (l : List Address) : downTo a l <+: l := by
  induction l with
  | nil => exact List.prefix_rfl
  | cons b l ih =>
    rw [downTo]
    split
    · exact ⟨l, rfl⟩
    · exact (List.prefix_cons_inj b).2 ih

theorem head?_downTo (a c : Address) (l : List Address) : (downTo a (c :: l)).head? = some c := by
  rw [downTo]
  split <;> rfl

theorem getLast?_downTo {l : List Address} (h : a ∈ l) : (downTo a l).getLast? = some a := by
  induction l with
  | nil => cases h
  | cons b l ih =>
    rw [downTo]
    split
    · rename_i eq
      rw [eq, List.getLast?_singleton]
    · rename_i ne
      rw [List.getLast?_cons, ih ((List.mem_cons.1 h).resolve_left (Ne.symm ne)), Option.getD_some]

/-! ## The path of the open cells -/

namespace Nested

/-- The asked cell is open. -/
theorem root_mem (h : Nested s w root (some c) fs) : root = c ∨ root ∈ path fs := by
  generalize hn : some c = next at h
  induction h generalizing c with
  | bottom h =>
    subst hn
    left
    simpa [eq_comm] using h
  | frame below covered above new ih => exact Or.inr (List.mem_cons.2 (ih rfl))

theorem nodup_path (h : Nested s w root next fs) : (path fs).Nodup := by
  induction h with
  | bottom h => exact List.nodup_nil
  | frame below covered above new ih => exact List.nodup_cons.2 ⟨new, ih⟩

/-- Each cell of the path reads the one above it. -/
theorem isChain_path (h : Nested s w root (some c) fs) :
    (c :: path fs).IsChain fun x y => s.Follows y x := by
  generalize hn : some c = next at h
  induction h generalizing c with
  | bottom h => exact List.IsChain.singleton c
  | frame below covered above new ih =>
    exact List.isChain_cons_cons.2 ⟨(above c (Or.inr hn.symm)).1, ih rfl⟩

/-- Of the open cells, those in the stack at or above a cell of the path are those in the path at or
above it: a cell that waits there is not open below its frame. -/
theorem mem_downTo_iff (h : Nested s w root (some c) fs) (target_mem : target ∈ path fs)
    (ha : a = c ∨ a ∈ path fs) : a = c ∨ a ∈ downTo target (fs.flatMap Frame.entries) ↔
      a = c ∨ a ∈ downTo target (path fs) := by
  generalize hn : some c = next at h
  induction h generalizing c with
  | bottom h => cases target_mem
  | @frame next f fs below covered above new ih =>
    rw [(Nested.frame below covered above new).downTo_frame target_mem, path_cons, downTo]
    by_cases eq : a = c
    · simp [eq]
    have open_path : a = f.cell ∨ a ∈ path fs := List.mem_cons.1 (ha.resolve_left eq)
    have not_waiting : a ∉ f.waiting := fun waits =>
      (above a (Or.inl waits)).2 (List.mem_cons.2 open_path)
    by_cases top : f.cell = target
    · simp [eq, not_waiting, top]
    · have lower : target ∈ path fs := (List.mem_cons.1 target_mem).resolve_left (Ne.symm top)
      simpa [eq, not_waiting, top] using ih lower open_path rfl

end Nested

/-! ## The ring -/

namespace Closed

theorem nodup_path (h : Closed s P root target w c fs) : (c :: path fs).Nodup :=
  List.nodup_cons.2 ⟨h.nested.not_mem_path, h.nested.nodup_path⟩

theorem target_path (h : Closed s P root target w c fs) : target ∈ c :: path fs :=
  List.mem_cons.2 ((h.open_iff target).1 h.target_open)

/-- **The cells of a found cycle are the path down to its target.** -/
theorem mem_cycleCells_iff (h : Closed s P root target w c fs) :
    a ∈ cycleCells target w ↔ a ∈ downTo target (c :: path fs) := by
  have on_path : a ∈ downTo target (c :: path fs) → a = c ∨ a ∈ path fs := fun ha =>
    List.mem_cons.1 ((isPrefix_downTo _ _).subset ha)
  rw [cycleCells, List.mem_filter, h.open_iff, h.stack]
  by_cases self : c = target
  · rw [downTo, downTo, if_pos self, if_pos self]
    simp +contextual
  · have lower : target ∈ path fs := (List.mem_cons.1 h.target_path).resolve_left (Ne.symm self)
    rw [downTo, if_neg self] at on_path ⊢
    rw [downTo, if_neg self, List.mem_cons, List.mem_cons] at *
    constructor
    · rintro ⟨ha, is_open⟩
      exact (h.nested.mem_downTo_iff lower is_open).1 ha
    · intro ha
      exact ⟨(h.nested.mem_downTo_iff lower (on_path ha)).2 ha, on_path ha⟩

/-- **A found cycle is a ring** of references, from its target to the last cell entered. -/
theorem ring (h : Closed s P root target w c fs) :
    s.Ring (downTo target (c :: path fs)).reverse target c where
  starts := by rw [List.head?_reverse, getLast?_downTo h.target_path]
  ends := by rw [List.getLast?_reverse, head?_downTo]
  nodup := List.nodup_reverse.2 (h.nodup_path.sublist (isPrefix_downTo _ _).sublist)
  chain := List.isChain_reverse.2 <| h.nested.isChain_path.prefix <| isPrefix_downTo _ _
  closes := h.follows_target

theorem mem_ring_iff (h : Closed s P root target w c fs) :
    a ∈ (downTo target (c :: path fs)).reverse ↔ a ∈ cycleCells target w := by
  rw [List.mem_reverse, h.mem_cycleCells_iff]

/-- **The cells of a found cycle lie on a cycle**: they reach its target, which reaches them. -/
theorem onCycle_of_mem (h : Closed s P root target w c fs) (ha : a ∈ cycleCells target w) :
    OnCycle s a :=
  (h.open_reaches_target (List.mem_filter.1 ha).2).trans_left
    (h.ring.first_reaches (h.mem_ring_iff.2 ha))

/-- No open cell has a value. -/
theorem known?_of_open (h : Closed s P root target w c fs) (ha : a = c ∨ a ∈ path fs) :
    w.known? s a = none := by
  obtain ⟨entered, not_computed⟩ := isOpen_iff.1 ((h.open_iff a).2 ha)
  have uncached : (s.cell a).cached = none := (h.progress.entered a entered).uncached
  rw [known?, Std.ExtTreeMap.getElem?_eq_none not_computed, uncached]

end Closed

end Walk

end Spreadsheet
