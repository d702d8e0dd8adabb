import Spreadsheet.Proofs.Walk.Nesting

/-!
# Runs of a walk

`Framed` is the invariant of a walk from an asked cell: its stack is made of frames, the cells of
the frames are the open ones, and every value computed so far has a property that cached values
have and computing keeps (`Store.ValueLaw`). `Framed.step_cases` says all that a step can do. So a
walk ends with the asked cell known, or with a path of open cells from the asked cell whose last
cell reads an earlier one (`run_ends`).
-/

namespace Spreadsheet

open Relation

/-- A property that the cached values of a store have, and that the value of any other cell has if
it is computed from values with the property. -/
structure Store.ValueLaw (s : Store) (P : Address → Value → Prop) : Prop where
  cached : ∀ a v, s.bounds.contains a = true → (s.cell a).cached = some v → P a v
  computed : ∀ a lookup, s.bounds.contains a = true → (s.cell a).cached = none →
    (∀ r, s.Follows a r → P r (lookup r)) →
    (∀ r, s.Reads a r → s.bounds.contains r = false → lookup r = invalidAddress r) →
    P a ((s.cell a).expr.eval lookup)

namespace Walk

/-- A cell that a walk may enter: it lies inside the bounds, has no value yet, and is reached from
the asked cell. -/
structure Enterable (s : Store) (root a : Address) : Prop where
  inside : s.bounds.contains a = true
  uncached : (s.cell a).cached = none
  reached : ReflTransGen s.Follows root a

variable {s : Store} {P : Address → Value → Prop} {root : Address} {w : Walk}
  {next : Option Address} {fs : List Frame} {a c : Address}

/-- What a walk has done so far: entered cells without values, computed some of them, each time a
value with the property. -/
structure Progress (s : Store) (P : Address → Value → Prop) (root : Address) (w : Walk) : Prop where
  entered : ∀ a ∈ w.entered, Enterable s root a
  computed : ∀ a ∈ w.computed, a ∈ w.entered
  values : ∀ a v, w.computed[a]? = some v → P a v

/-- The invariant of a walk. -/
structure Framed (s : Store) (P : Address → Value → Prop) (root : Address) (w : Walk)
    (next : Option Address) (fs : List Frame) : Prop where
  stack : w.stack = next.toList ++ fs.flatMap Frame.entries
  nested : Nested s w root next fs
  open_iff : ∀ a, w.isOpen a = true ↔ a ∈ path fs
  progress : Progress s P root w

/-- A walk that has met a cycle: it has just entered `c`, which reads the open cell `target`. -/
structure Closed (s : Store) (P : Address → Value → Prop) (root target : Address) (w : Walk)
    (c : Address) (fs : List Frame) : Prop where
  stack : w.stack = c :: fs.flatMap Frame.entries
  nested : Nested s w root (some c) fs
  open_iff : ∀ a, w.isOpen a = true ↔ a = c ∨ a ∈ path fs
  progress : Progress s P root w
  target_open : w.isOpen target = true
  closes : s.Reads c target

/-! ## The invariant at a step -/

theorem lookup_outside {r : Address} (h : s.bounds.contains r = false) :
    w.lookup s r = invalidAddress r := by
  simp [lookup, h]

/-- A known value has the property, whether it is cached or computed. -/
theorem Progress.known_value (law : s.ValueLaw P) (h : Progress s P root w)
    (inside : s.bounds.contains a = true) (known : w.Knows s a) : P a (w.lookup s a) := by
  obtain ⟨v, hv⟩ := Option.isSome_iff_exists.1 known
  rw [lookup, if_pos inside, hv, Option.getD_some]
  unfold known? at hv
  split at hv
  · rename_i v' found
    exact h.values a v (found.trans hv)
  · exact law.cached a v inside hv

theorem framed_start (root : Address) : Framed s P root (start root) (some root) [] where
  stack := rfl
  nested := .bottom (Or.inl rfl)
  open_iff a := by simp [start, isOpen, path]
  progress := ⟨by simp [start], by simp [start], by simp [start]⟩

namespace Framed

/-- The next cell is known: the walk passes over it. -/
theorem step_skip (h : Framed s P root w (some c) fs) (known : w.Knows s c) :
    w.step s = .walking { w with stack := fs.flatMap Frame.entries } :=
  step_of_known h.stack known

theorem skip (h : Framed s P root w (some c) fs) (known : w.Knows s c) :
    Framed s P root { w with stack := fs.flatMap Frame.entries } none fs where
  stack := rfl
  nested := (h.nested.skip known).mono fun _ => id
  open_iff := h.open_iff
  progress := ⟨h.progress.entered, h.progress.computed, h.progress.values⟩

/-- The next cell of a top frame in which cells wait. -/
theorem take {cs : List Address} (h : Framed s P root w none (⟨a, c :: cs⟩ :: fs)) :
    Framed s P root w (some c) (⟨a, cs⟩ :: fs) where
  stack := h.stack
  nested := h.nested.take
  open_iff := h.open_iff
  progress := h.progress

/-- A cell that is neither known nor open has not been entered. -/
theorem not_mem_entered (h : Framed s P root w (some c) fs) (unknown : ¬w.Knows s c) :
    c ∉ w.entered := by
  intro entered
  have not_computed : c ∉ w.computed := fun hc => unknown (knows_iff.2 (Or.inl hc))
  exact h.nested.not_mem_path ((h.open_iff c).1 (isOpen_iff.2 ⟨entered, not_computed⟩))

/-- The next cell lies inside the bounds. -/
theorem next_inside (h : Framed s P root w (some c) fs) (inside : s.bounds.contains root = true) :
    s.bounds.contains c = true := by
  rcases ReflTransGen.cases_tail h.nested.reaches_next with rfl | ⟨_, _, last⟩
  · exact inside
  · exact last.2

theorem enterable (h : Framed s P root w (some c) fs) (inside : s.bounds.contains root = true)
    (unknown : ¬w.Knows s c) : Enterable s root c where
  inside := h.next_inside inside
  uncached := by
    by_contra cached
    exact unknown (knows_iff.2 (Or.inr cached))
  reached := h.nested.reaches_next

/-- The next cell is not known: the walk enters it. -/
theorem step_enter (h : Framed s P root w (some c) fs) (unknown : ¬w.Knows s c) :
    w.step s = w.enter s c :=
  step_of_new h.stack unknown (h.not_mem_entered unknown)

/-- The progress of a walk that enters a cell. -/
theorem progress_enter (h : Framed s P root w (some c) fs) (inside : s.bounds.contains root = true)
    (unknown : ¬w.Knows s c) (stack : List Address) :
    Progress s P root { w with entered := w.entered.insert c, stack := stack } where
  entered a ha := by
    rcases AddressSet.mem_insert_iff.1 ha with rfl | ha
    · exact h.enterable inside unknown
    · exact h.progress.entered a ha
  computed a ha := AddressSet.mem_insert_iff.2 (Or.inr (h.progress.computed a ha))
  values := h.progress.values

theorem open_enter (h : Framed s P root w (some c) fs) (unknown : ¬w.Knows s c)
    (stack : List Address) (a : Address) :
    ({ w with entered := w.entered.insert c, stack := stack } : Walk).isOpen a = true ↔
      a = c ∨ a ∈ path fs := by
  have not_computed : c ∉ w.computed := fun hc => unknown (knows_iff.2 (Or.inl hc))
  rw [← h.open_iff, isOpen_iff, isOpen_iff]
  simp only [AddressSet.mem_insert_iff]
  constructor
  · rintro ⟨rfl | entered, hn⟩
    · exact Or.inl rfl
    · exact Or.inr ⟨entered, hn⟩
  · rintro (rfl | ⟨entered, hn⟩)
    · exact ⟨Or.inl rfl, not_computed⟩
    · exact ⟨Or.inr entered, hn⟩

/-- Entering a cell with an open reference meets a cycle. -/
theorem enter_closed (h : Framed s P root w (some c) fs) (inside : s.bounds.contains root = true)
    (unknown : ¬w.Knows s c) {target : Address}
    (found : (s.cell c).references.toList.find?
      ({ w with entered := w.entered.insert c } : Walk).isOpen = some target) :
    Closed s P root target { w with entered := w.entered.insert c } c fs where
  stack := h.stack
  nested := h.nested.mono fun _ => id
  open_iff := h.open_enter unknown w.stack
  progress := h.progress_enter inside unknown w.stack
  target_open := List.find?_some found
  closes := Std.ExtTreeSet.mem_toList.1 (List.mem_of_find?_eq_some found)

/-- Entering any other cell puts its references inside the bounds above it. -/
theorem enter_framed (h : Framed s P root w (some c) fs) (inside : s.bounds.contains root = true)
    (unknown : ¬w.Knows s c)
    (none_open : (s.cell c).references.toList.find?
      ({ w with entered := w.entered.insert c } : Walk).isOpen = none) :
    Framed s P root
      { w with
        entered := w.entered.insert c
        stack := ((s.cell c).references.toList.filter s.bounds.contains).reverse ++ w.stack }
      none (⟨c, ((s.cell c).references.toList.filter s.bounds.contains).reverse⟩ :: fs) where
  stack := by simp [h.stack, Frame.entries]
  nested := by
    have waiting : ∀ r, r ∈ ((s.cell c).references.toList.filter s.bounds.contains).reverse ↔
        s.Follows c r := by
      intro r
      rw [List.mem_reverse, List.mem_filter, Std.ExtTreeSet.mem_toList]
      rfl
    refine Nested.push ?_ waiting (fun r hr mem => ?_) h.nested.not_mem_path
    · exact h.nested.mono fun _ => id
    · -- no reference of the cell is open, and the open cells are the path
      have closed := List.find?_eq_none.1 none_open r
        (Std.ExtTreeSet.mem_toList.2 ((waiting r).1 hr).1)
      exact closed ((h.open_enter unknown w.stack r).2 (List.mem_cons.1 mem))
  open_iff a := (h.open_enter unknown _ a).trans List.mem_cons.symm
  progress := h.progress_enter inside unknown _

/-- Entering a cell meets a cycle or puts the references inside the bounds above the cell. -/
theorem enter_cases (h : Framed s P root w (some c) fs) (inside : s.bounds.contains root = true)
    (unknown : ¬w.Knows s c) :
    (∃ target w', w.enter s c = .ended (.cycle target w') ∧ Closed s P root target w' c fs) ∨
      ∃ w' cs, w.enter s c = .walking w' ∧ Framed s P root w' none (⟨c, cs⟩ :: fs) := by
  cases found : (s.cell c).references.toList.find?
      ({ w with entered := w.entered.insert c } : Walk).isOpen with
  | some target => exact Or.inl ⟨_, _, enter_of_some found, h.enter_closed inside unknown found⟩
  | none => exact Or.inr ⟨_, _, enter_of_none found, h.enter_framed inside unknown found⟩

/-- When a cell is computed, its references inside the bounds are known. -/
theorem knows_references (h : Framed s P root w none (⟨a, []⟩ :: fs)) {r : Address}
    (hr : s.Follows a r) : w.Knows s r := by
  cases h.nested with
  | frame below covered above new => simpa using covered r hr

/-- The open cell on the top of the stack is computed. -/
theorem step_compute (h : Framed s P root w none (⟨a, []⟩ :: fs)) :
    w.step s = .walking { w.compute s a with stack := fs.flatMap Frame.entries } := by
  obtain ⟨entered, not_computed⟩ := isOpen_iff.1 ((h.open_iff a).2 List.mem_cons_self)
  have unknown : ¬w.Knows s a := by
    rw [knows_iff]
    rintro (computed | cached)
    · exact not_computed computed
    · exact cached (h.progress.entered a entered).uncached
  exact step_of_entered h.stack unknown entered

theorem mem_computed_compute {b : Address} :
    b ∈ (w.compute s a).computed ↔ a = b ∨ b ∈ w.computed := by
  rw [compute, Std.ExtTreeMap.mem_insert, Std.LawfulEqOrd.compare_eq_iff_eq]

/-- The cell is closed when it is computed, and it was open only once. -/
theorem open_compute (h : Framed s P root w none (⟨a, []⟩ :: fs)) (stack : List Address)
    (b : Address) : ({ w.compute s a with stack := stack } : Walk).isOpen b = true ↔ b ∈ path fs := by
  have new : a ∉ path fs := by
    cases h.nested with
    | frame below covered above new => exact new
  have before := h.open_iff b
  rw [isOpen_iff, path_cons, List.mem_cons] at before
  rw [isOpen_iff]
  change b ∈ w.entered ∧ b ∉ (w.compute s a).computed ↔ _
  rw [mem_computed_compute]
  constructor
  · rintro ⟨hb, hn⟩
    exact (before.1 ⟨hb, fun hc => hn (Or.inr hc)⟩).resolve_left fun eq => hn (Or.inl eq.symm)
  · intro hb
    obtain ⟨hb', hn⟩ := before.2 (Or.inr hb)
    exact ⟨hb', fun hc => hc.elim (fun eq => new (eq ▸ hb)) hn⟩

/-- The progress of a walk that computes a cell: its value has the property, since those of its
references have it. -/
theorem progress_compute (law : s.ValueLaw P) (h : Framed s P root w none (⟨a, []⟩ :: fs))
    (stack : List Address) : Progress s P root { w.compute s a with stack := stack } := by
  obtain ⟨entered, -⟩ := isOpen_iff.1 ((h.open_iff a).2 List.mem_cons_self)
  refine ⟨h.progress.entered, fun b hb => ?_, fun b v hb => ?_⟩
  · rcases mem_computed_compute.1 hb with rfl | hb
    · exact entered
    · exact h.progress.computed b hb
  · change (w.computed.insert a _)[b]? = some v at hb
    rw [Std.ExtTreeMap.getElem?_insert] at hb
    split at hb
    · rename_i eq
      obtain rfl := Std.LawfulEqOrd.eq_of_compare eq
      obtain rfl := Option.some.inj hb
      have enterable := h.progress.entered a entered
      exact law.computed a _ enterable.inside enterable.uncached
        (fun r hr => h.progress.known_value law hr.2 (h.knows_references hr))
        (fun r _ hr => lookup_outside hr)
    · exact h.progress.values b v hb

theorem compute_framed (law : s.ValueLaw P) (h : Framed s P root w none (⟨a, []⟩ :: fs)) :
    Framed s P root { w.compute s a with stack := fs.flatMap Frame.entries } none fs where
  stack := rfl
  nested := by
    have le : ∀ b, w.Knows s b → (w.compute s a).Knows s b := fun b hb =>
      knows_iff.2 ((knows_iff.1 hb).imp (fun hb => mem_computed_compute.2 (Or.inr hb)) id)
    have knows_cell : (w.compute s a).Knows s a :=
      knows_iff.2 (Or.inl (mem_computed_compute.2 (Or.inl rfl)))
    cases h.nested with
    | frame below covered above new =>
      exact ((below.mono le).skip knows_cell).mono fun _ => id
  open_iff := h.open_compute _
  progress := h.progress_compute law _

/-- **All that a step can do**: end with an empty stack, where the asked cell is known; meet a
cycle; or go on, by passing over a known cell, entering a cell or computing one. -/
theorem step_cases (law : s.ValueLaw P) (inside : s.bounds.contains root = true)
    (h : Framed s P root w next fs) :
    (w.step s = .ended (.finished w) ∧ w.Knows s root) ∨
      (∃ target w' c fs', w.step s = .ended (.cycle target w') ∧
        Closed s P root target w' c fs') ∨
      ∃ w' next' fs', w.step s = .walking w' ∧ Framed s P root w' next' fs' := by
  have treat : ∀ c fs, Framed s P root w (some c) fs →
      (∃ target w' c fs', w.step s = .ended (.cycle target w') ∧
        Closed s P root target w' c fs') ∨
      ∃ w' next' fs', w.step s = .walking w' ∧ Framed s P root w' next' fs' := by
    intro c fs h
    by_cases known : w.Knows s c
    · exact Or.inr ⟨_, _, _, h.step_skip known, h.skip known⟩
    · rw [h.step_enter known]
      refine (h.enter_cases inside known).imp ?_ ?_
      · rintro ⟨target, w', found, closed⟩
        exact ⟨target, w', c, fs, found, closed⟩
      · rintro ⟨w', cs, found, framed⟩
        exact ⟨w', none, _, found, framed⟩
  match next, fs, h with
  | some c, fs, h => exact Or.inr (treat c fs h)
  | none, ⟨a, c :: cs⟩ :: fs, h => exact Or.inr (treat c _ h.take)
  | none, ⟨a, []⟩ :: fs, h => exact Or.inr (Or.inr ⟨_, _, _, h.step_compute, h.compute_framed law⟩)
  | none, [], h =>
    refine Or.inl ⟨step_of_nil h.stack, ?_⟩
    cases h.nested with
    | bottom known => simpa using known

end Framed

/-! ## Whole runs -/

/-- How a walk from the asked cell ends. -/
inductive Ends (s : Store) (P : Address → Value → Prop) (root : Address) : Result → Prop
  | finished {w : Walk} (known : w.Knows s root) (progress : Progress s P root w) :
    Ends s P root (.finished w)
  | cycle {w : Walk} {target c : Address} {fs : List Frame}
    (closed : Closed s P root target w c fs) : Ends s P root (.cycle target w)

theorem run_ends_of_framed (law : s.ValueLaw P) (inside : s.bounds.contains root = true)
    (h : Framed s P root w next fs) : Ends s P root (w.run s) := by
  fun_induction run s w generalizing next fs with
  | case1 w r found =>
    rcases Framed.step_cases law inside h with ⟨eq, known⟩ | ⟨_, _, _, _, eq, closed⟩ | ⟨_, _, _, eq, _⟩
    · obtain rfl := Step.ended.inj (found.symm.trans eq)
      exact .finished known h.progress
    · obtain rfl := Step.ended.inj (found.symm.trans eq)
      exact .cycle closed
    · cases found.symm.trans eq
  | case2 w w' found ih =>
    rcases Framed.step_cases law inside h with ⟨eq, _⟩ | ⟨_, _, _, _, eq, _⟩ | ⟨_, _, _, eq, framed⟩
    · cases found.symm.trans eq
    · cases found.symm.trans eq
    · obtain rfl := Step.walking.inj (found.symm.trans eq)
      exact ih framed

/-- **Every walk ends** with the asked cell known or at a cycle. -/
theorem run_ends (law : s.ValueLaw P) (inside : s.bounds.contains root = true) :
    Ends s P root ((start root).run s) :=
  run_ends_of_framed law inside (framed_start root)

/-! ## Cycles -/

/-- The cell lies on a cycle of references inside the bounds. -/
def OnCycle (s : Store) (a : Address) : Prop := TransGen s.Follows a a

/-- The cell reaches a cycle of references inside the bounds. -/
def ReachesCycle (s : Store) (a : Address) : Prop := ∃ b, ReflTransGen s.Follows a b ∧ OnCycle s b

/-- A cell that reaches a cycle reads one that does. -/
theorem ReachesCycle.exists_follows (h : ReachesCycle s a) : ∃ b, s.Follows a b ∧ ReachesCycle s b := by
  obtain ⟨c, path, cycle⟩ := h
  rcases ReflTransGen.cases_head path with rfl | ⟨b, first, rest⟩
  · obtain ⟨b, first, back⟩ := TransGen.head'_iff.1 cycle
    exact ⟨b, first, _, back, cycle⟩
  · exact ⟨b, first, c, rest, cycle⟩

/-- A cycle is reached in another store too, if the references that lead to it are followed there. -/
theorem ReachesCycle.transfer {t : Store} {kept : Address → Prop}
    (closed : ∀ a b, kept a → s.Follows a b → kept b ∧ t.Follows a b) (h : ReachesCycle s a)
    (ha : kept a) : ReachesCycle t a := by
  have path : ∀ {a b}, kept a → ReflTransGen s.Follows a b → kept b ∧ ReflTransGen t.Follows a b := by
    intro a b ha h
    induction h with
    | refl => exact ⟨ha, ReflTransGen.refl⟩
    | tail _ last ih =>
      obtain ⟨kept_last, last'⟩ := closed _ _ ih.1 last
      exact ⟨kept_last, ih.2.tail last'⟩
  obtain ⟨b, reaches, cycle⟩ := h
  obtain ⟨hb, reaches'⟩ := path ha reaches
  obtain ⟨c, first, back⟩ := TransGen.head'_iff.1 cycle
  obtain ⟨hc, first'⟩ := closed b c hb first
  exact ⟨b, reaches', TransGen.head' first' (path hc back).2⟩

/-- Stores in which the same references are followed reach the same cycles. -/
theorem reachesCycle_congr {t : Store} (same : ∀ a b, t.Follows a b ↔ s.Follows a b) :
    ReachesCycle t a ↔ ReachesCycle s a := by
  have eq : t.Follows = s.Follows := by
    funext a b
    exact propext (same a b)
  rw [ReachesCycle, ReachesCycle, eq]
  simp only [OnCycle, eq]

namespace Closed

variable {target : Address}

theorem follows_target (h : Closed s P root target w c fs) : s.Follows c target :=
  ⟨h.closes, (h.progress.entered target (isOpen_iff.1 h.target_open).1).inside⟩

/-- Each open cell reaches the target. -/
theorem open_reaches_target (h : Closed s P root target w c fs) (ha : w.isOpen a = true) :
    TransGen s.Follows a target := by
  rcases (h.open_iff a).1 ha with rfl | ha
  · exact TransGen.single h.follows_target
  · exact (h.nested.path_reaches ha).tail h.follows_target

theorem onCycle_target (h : Closed s P root target w c fs) : OnCycle s target :=
  h.open_reaches_target h.target_open

theorem reaches_target (h : Closed s P root target w c fs) : ReflTransGen s.Follows root target :=
  (h.progress.entered target (isOpen_iff.1 h.target_open).1).reached

end Closed

end Walk

end Spreadsheet
