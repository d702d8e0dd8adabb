import Spreadsheet.Proofs.Sheet.Cycles
import Spreadsheet.Proofs.Walk.Marked

/-!
# Cells that reach a single cycle

From an untangled cell only one way leads to a cycle: each cell that it reaches reads at most one
cell that reaches a cycle (`Walk.Untangled`). If such a cell lies on a cycle, that is the only cycle
it reaches, and a query marks all cells of the cycle or none (`Walk.Untangled.marks_all`). So at any
time either none of them has a value or all of them have the cycle error
(`Sheet.Reachable.uniform`), and each states its cycle, whatever was asked for before
(`Sheet.Reachable.value_of_untangled`).
-/

namespace Spreadsheet

open Relation

namespace Walk

variable {s : Store} {a b c d : Address}

/-- Each cell that `a` reaches reads at most one cell that reaches a cycle. -/
def Untangled (s : Store) (a : Address) : Prop :=
  ∀ x y y', ReflTransGen s.Follows a x → s.Follows x y → s.Follows x y' →
    ReachesCycle s y → ReachesCycle s y' → y = y'

/-- The cells reach each other. -/
def Together (s : Store) (a b : Address) : Prop :=
  ReflTransGen s.Follows a b ∧ ReflTransGen s.Follows b a

theorem Together.trans (h : Together s a b) (h' : Together s b c) : Together s a c :=
  ⟨h.1.trans h'.1, h'.2.trans h.2⟩

theorem OnCycle.of_together (cycle : OnCycle s a) (h : Together s a b) : OnCycle s b :=
  (TransGen.trans_right h.2 cycle).trans_left h.1

theorem ReachesCycle.of_path (path : ReflTransGen s.Follows a b) (cycle : OnCycle s b) :
    ReachesCycle s a :=
  ⟨b, path, cycle⟩

namespace Untangled

/-- What an untangled cell on a cycle reaches either leads back to it or reaches no cycle. -/
theorem returns (h : Untangled s a) (cycle : OnCycle s a) (path : ReflTransGen s.Follows a b)
    (reaches : ReachesCycle s b) : ReflTransGen s.Follows b a := by
  induction path with
  | refl => exact ReflTransGen.refl
  | @tail x b path last ih =>
    obtain ⟨c, further, ring⟩ := reaches
    have back := ih ⟨c, ReflTransGen.head last further, ring⟩
    -- the way back to `a` starts with the only cell behind `x` that reaches a cycle
    obtain ⟨y, first, rest⟩ := TransGen.head'_iff.1 (TransGen.trans_right back cycle)
    obtain rfl : y = b := h x y b path first last ⟨a, rest, cycle⟩ ⟨c, further, ring⟩
    exact rest

end Untangled

/-- The references between cells that reach each other are awaited if those have no values. -/
theorem awaits_of_together (uncached : ∀ b, Together s a b → (s.cell b).cached = none)
    (together : Together s a c) (path : ReflTransGen s.Follows b c) (reached : Together s a b) :
    ReflTransGen s.Awaits b c := by
  induction path using ReflTransGen.head_induction_on with
  | refl => exact ReflTransGen.refl
  | @head x y first rest ih =>
    have next : Together s a y := ⟨reached.1.tail first, rest.trans together.2⟩
    exact ReflTransGen.head ⟨first, uncached y next⟩ (ih next)

/-- A cycle of cells without values is met. -/
theorem meetsCycle_of_uncached (cycle : OnCycle s a)
    (uncached : ∀ b, Together s a b → (s.cell b).cached = none) : MeetsCycle s a := by
  have self : Together s a a := ⟨.refl, .refl⟩
  obtain ⟨b, first, back⟩ := TransGen.head'_iff.1 cycle
  have next : Together s a b := ⟨.single first, back⟩
  exact ⟨uncached a self, a, .refl,
    TransGen.head' ⟨first, uncached b next⟩ (awaits_of_together uncached self back next)⟩

/-- Of an untangled cycle, a query marks all cells or none. -/
theorem Untangled.marks_all (h : Untangled s a) (cycle : OnCycle s a) {t : Store}
    {marked ring : Address → Prop} (marking : s.Marking t marked ring) (hb : Together s a b)
    (mark : marked b) (hc : Together s a c) : marked c := by
  obtain ⟨d, hd, path⟩ := marking.reaches b mark
  have reached : ReflTransGen s.Follows a d := hb.1.trans path
  have back := h.returns cycle reached (.of_path .refl (marking.onCycle d hd))
  refine marking.subset c ?_
  -- along the way from the ring to `c`, the ring has the only next cell that reaches a cycle
  have along : ∀ x, ReflTransGen s.Follows x c → ReflTransGen s.Follows a x → ring x → ring c := by
    intro x path
    induction path using ReflTransGen.head_induction_on with
    | refl => exact fun _ hx => hx
    | @head x y first rest ih =>
      intro before hx
      obtain ⟨y', hy', follows⟩ := marking.next x hx
      have on_cycle : OnCycle s c := cycle.of_together hc
      obtain rfl : y = y' := h x y y' before first follows (.of_path rest on_cycle)
        (.of_path .refl (marking.onCycle y' hy'))
      exact ih (before.tail first) hy'
  exact along d (back.trans hc.1) reached hd

end Walk

namespace Sheet

open Store Walk

variable {s s' : Sheet} {a b : Address} {stale : AddressSet} {kept : Address → Prop}

/-! ## What is spared -/

namespace Spares

variable (spares : Spares s s' kept) (hs : s.Sound) (hs' : s'.Sound)
include spares hs hs'

theorem path (ha : kept a) (path : ReflTransGen s'.store.Follows a b) :
    kept b ∧ ReflTransGen s.store.Follows a b := by
  induction path with
  | refl => exact ⟨ha, .refl⟩
  | tail _ last ih =>
    have before := (spares.follows hs hs' ih.1).1 last
    exact ⟨spares.closed _ _ ih.1 before, ih.2.tail before⟩

theorem path_after (ha : kept a) (path : ReflTransGen s.store.Follows a b) :
    kept b ∧ ReflTransGen s'.store.Follows a b := by
  induction path with
  | refl => exact ⟨ha, .refl⟩
  | tail _ last ih =>
    exact ⟨spares.closed _ _ ih.1 last, ih.2.tail ((spares.follows hs hs' ih.1).2 last)⟩

theorem onCycle (ha : kept a) (cycle : OnCycle s'.store a) : OnCycle s.store a := by
  obtain ⟨b, first, back⟩ := TransGen.head'_iff.1 cycle
  have before := (spares.follows hs hs' ha).1 first
  exact TransGen.head' before (spares.path hs hs' (spares.closed a b ha before) back).2

theorem untangled (ha : kept a) (untangled : Untangled s'.store a) : Untangled s.store a := by
  intro x y y' path hy hy' reaches reaches'
  obtain ⟨hx, path'⟩ := spares.path_after hs hs' ha path
  exact untangled x y y' path' ((spares.follows hs hs' hx).2 hy) ((spares.follows hs hs' hx).2 hy')
    ((spares.reachesCycle_iff hs hs' (spares.closed x y hx hy)).2 reaches)
    ((spares.reachesCycle_iff hs hs' (spares.closed x y' hx hy')).2 reaches')

end Spares

/-! ## Uniform cycles -/

/-- Of an untangled cycle, either no cell has a value or all have the cycle error. -/
def Uniform (s : Sheet) : Prop :=
  ∀ a, OnCycle s.store a → Untangled s.store a →
    (∀ b, Together s.store a b → (s.store.cell b).cached = none) ∨
      ∀ b, Together s.store a b → (s.store.cell b).cached = some cycleError

namespace Uniform

theorem empty (rows columns : Nat) : (empty rows columns).Uniform := by
  intro a cycle
  exact absurd ⟨a, .refl, cycle⟩ (not_reachesCycle_of_blank (sound_empty rows columns) rfl)

theorem value (h : s.Uniform) (c : Address) : (s.value c).2.Uniform := by
  obtain ⟨marked, ring, marking⟩ := value_marking s.store c
  have same : (s.value c).2.store.Follows = s.store.Follows := by
    funext x y
    exact propext (value_keeps s.store c).follows
  intro a cycle untangled
  simp only [OnCycle, Untangled, ReachesCycle, Together, same] at cycle untangled ⊢
  rcases h a cycle untangled with uncached | stated
  · by_cases mark : ∃ b, Together s.store a b ∧ marked b
    · obtain ⟨b, hb, mark⟩ := mark
      exact Or.inr fun d hd =>
        marking.stated d (Untangled.marks_all untangled cycle marking hb mark hd)
    · refine Or.inl fun b hb => ?_
      rcases marking.others b fun hm => mark ⟨b, hb, hm⟩ with kept | ⟨-, no_cycle⟩
      · exact kept.trans (uncached b hb)
      · have on_cycle : OnCycle s.store b := OnCycle.of_together cycle hb
        refine absurd (meetsCycle_of_uncached on_cycle fun d hd => ?_) no_cycle
        exact uncached d (Together.trans hb hd)
  · refine Or.inr fun b hb => ?_
    have valued : (s.store.cell b).cached ≠ none := by
      rw [stated b hb]
      exact Option.some_ne_none _
    rcases marking.others b (mt (marking.uncached b) valued) with kept | ⟨none, -⟩
    · exact kept.trans (stated b hb)
    · exact absurd none valued

/-- A spared cell on a cycle is spared with all the cycle, and any other has lost its value with
it. -/
theorem edit (h : s.Uniform) (hs : s.Sound) (edit : s.Edit stale s') : s'.Uniform := by
  have hs' := hs.edit edit
  obtain ⟨kept, spares, -⟩ := edit.spares hs
  intro a cycle untangled
  have text : ∀ b, Together s'.store a b → s'.formula b ≠ "" := by
    intro b hb
    obtain ⟨d, first, -⟩ := TransGen.head'_iff.1 (cycle.of_together hb)
    exact hs'.linked.formula_ne_of_reads first.1
  have stored : ∀ b, Together s'.store a b → b ∈ s'.store.entries := fun b hb =>
    mem_of_formula_ne (text b hb)
  by_cases ha : kept a
  · have back : ∀ b, Together s'.store a b → kept b ∧ Together s.store a b := by
      intro b hb
      obtain ⟨kept_b, there⟩ := spares.path hs hs' ha hb.1
      exact ⟨kept_b, there, (spares.path hs hs' kept_b hb.2).2⟩
    have same : ∀ b, Together s'.store a b → s'.store.cell b = s.store.cell b := fun b hb =>
      spares.cell b (stored b hb) (back b hb).1
    refine (h a (spares.onCycle hs hs' ha cycle) (spares.untangled hs hs' ha untangled)).imp ?_ ?_
    · intro uncached b hb
      rw [same b hb]
      exact uncached b (back b hb).2
    · intro stated b hb
      rw [same b hb]
      exact stated b (back b hb).2
  · refine Or.inl fun b hb => ?_
    have lost : ¬kept b := fun kept_b => ha (spares.path hs hs' kept_b hb.2).1
    rcases spares.fresh b (stored b hb) lost with none | blank
    · exact none
    · exact absurd (congrArg Cell.formula blank) (text b hb)

end Uniform

theorem Reachable.uniform (h : s.Reachable) : s.Uniform :=
  h.invariant Uniform.empty (fun hs uniform => uniform.edit hs) fun _ uniform => uniform.value

/-- A cell on a cycle is read by one of the cycle, so it lies inside the bounds. -/
theorem contains_of_onCycle (cycle : OnCycle s.store a) : s.contains a = true := by
  obtain ⟨_, -, last⟩ := TransGen.tail'_iff.1 cycle
  exact last.2

/-- **A cell that reaches no cycle but its own states it**, whatever was asked for before. -/
theorem Reachable.value_of_untangled (h : s.Reachable) (cycle : OnCycle s.store a)
    (untangled : Untangled s.store a) : (s.value a).1 = cycleError := by
  have self : Together s.store a a := ⟨.refl, .refl⟩
  have inside : s.store.bounds.contains a = true := contains_of_onCycle cycle
  rcases h.uniform a cycle untangled with uncached | stated
  · have meets : MeetsCycle s.store a := meetsCycle_of_uncached cycle uncached
    rcases value_cases lawMeets inside with no_cycle | ⟨answer, -⟩
    · exact absurd meets no_cycle
    · exact answer
  · exact congrArg Prod.fst (value_of_cached inside (stated a self))

end Sheet

end Spreadsheet
