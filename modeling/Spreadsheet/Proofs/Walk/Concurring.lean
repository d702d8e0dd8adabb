import Spreadsheet.Proofs.Walk.Resolution
import Spreadsheet.Proofs.Walk.Settled

/-!
# Stores that settle the same values

How much a store remembers makes no difference to its answers, only what it settles: two stores
with the same texts that settle the same values concur (`Store.Concurs`), whichever of these values
each of them remembers. A walk gets past a settled cell and leaves nothing of it in its stack, in one
step or in many (`Walk.passes_of_settled`). So the walks for one address in two such stores come to the
same frames again and again; they enter the same cells that are not settled, and meet the same cycle
or none (`Walk.Abreast.run`). Then the answers are the same, and so are the cells that are marked
with the cycle error, whence the stores concur after the query, too (`Store.Concurs.value`).
-/

namespace Spreadsheet

open Relation Walk

namespace Store

variable {s s' t t' : Store} {a b : Address} {v : Value}

/-- The cell lies inside the bounds, and the value is kept for it. -/
structure Remembered (s : Store) (a : Address) (v : Value) : Prop where
  inside : s.bounds.contains a = true
  cached : (s.cell a).cached = some v

/-- The stores have the same bounds and texts and settle the same values. -/
structure Concurs (s t : Store) : Prop where
  left : s.Linked
  right : t.Linked
  bounds : t.bounds = s.bounds
  formula : ∀ a, (t.cell a).formula = (s.cell a).formula
  settled : ∀ a v, t.Settled a v ↔ s.Settled a v

/-- What a store settles is settled in another one with the same texts, if whatever one of the two
remembers is settled in the other. -/
theorem settled_of_remembered (hs : s.Linked) (ht : t.Linked) (bounds : t.bounds = s.bounds)
    (formula : ∀ a, (t.cell a).formula = (s.cell a).formula)
    (remembered : ∀ a v, s.Remembered a v → t.Settled a v)
    (remembered' : ∀ a v, t.Remembered a v → s.Settled a v) (settled : s.Settled a v) :
    t.Settled a v := by
  induction settled with
  | cached inside cached => exact remembered _ _ ⟨inside, cached⟩
  | @computed a lookup inside uncached references outside ih =>
    have inside' : t.bounds.contains a = true := bounds ▸ inside
    cases cached : (t.cell a).cached with
    | none =>
      have expr : (t.cell a).expr = (s.cell a).expr := by
        rw [(ht.parsed a).expr, (hs.parsed a).expr, formula]
      have reads : ∀ {r}, t.Reads a r ↔ s.Reads a r := by
        intro r
        rw [Reads, ht.references, formula, Reads, hs.references]
      rw [← expr]
      refine .computed inside' cached (fun r hr => ih r ⟨reads.1 hr.1, bounds ▸ hr.2⟩) ?_
      exact fun r hr contained => outside r (reads.1 hr) (bounds ▸ contained)
    | some v' =>
      have computed : s.Settled a _ := .computed inside uncached references outside
      rw [computed.unique hs (remembered' a v' ⟨inside', cached⟩)]
      exact .cached inside' cached

namespace Concurs

theorem refl (linked : s.Linked) : s.Concurs s :=
  ⟨linked, linked, rfl, fun _ => rfl, fun _ _ => .rfl⟩

theorem symm (h : s.Concurs t) : t.Concurs s :=
  ⟨h.right, h.left, h.bounds.symm, fun a => (h.formula a).symm, fun a v => (h.settled a v).symm⟩

/-- Stores with the same texts concur if whatever one of them remembers is settled in the other. -/
theorem of_remembered (hs : s.Linked) (ht : t.Linked) (bounds : t.bounds = s.bounds)
    (formula : ∀ a, (t.cell a).formula = (s.cell a).formula)
    (remembered : ∀ a v, s.Remembered a v → t.Settled a v)
    (remembered' : ∀ a v, t.Remembered a v → s.Settled a v) : s.Concurs t where
  left := hs
  right := ht
  bounds := bounds
  formula := formula
  settled _ _ := ⟨settled_of_remembered ht hs bounds.symm (fun a => (formula a).symm) remembered'
    remembered, settled_of_remembered hs ht bounds formula remembered remembered'⟩

theorem references (h : s.Concurs t) (a : Address) :
    (t.cell a).references = (s.cell a).references := by
  rw [h.right.references, h.left.references, h.formula]

theorem reads (h : s.Concurs t) : t.Reads a b ↔ s.Reads a b := by
  rw [Reads, h.references, Reads]

/-- **Stores that concur answer the same**: the settled value, the cycle error for a cell inside the
bounds that is not settled, or the error of an address outside. -/
theorem answer (h : s.Concurs t) (a : Address) : (t.value a).1 = (s.value a).1 := by
  cases inside : s.bounds.contains a with
  | false => rw [value_of_outside inside, value_of_outside (h.bounds ▸ inside)]
  | true =>
    have inside' : t.bounds.contains a = true := h.bounds ▸ inside
    rcases value_cases valueLaw_settled inside with settled | ⟨answer, meets⟩
    · exact ((h.settled a _).2 settled).value_eq h.right
    · rcases value_cases valueLaw_settled inside' with settled | ⟨answer', -⟩
      · exact absurd meets ((h.settled a _).1 settled).not_meetsCycle
      · rw [answer, answer']

end Concurs

end Store

/-! ## Walks that get past settled cells -/

namespace Walk

open Store (valueLaw_settled)

variable {s t : Store} {P : Address → Value → Prop} {root a c : Address} {w v : Walk}
  {next : Option Address} {fs : List Frame}

/-- A walk that has the cell next gets past it: after some steps the cells below are in its stack
again. -/
def Passes (s : Store) (P : Address → Value → Prop) (root c : Address) : Prop :=
  ∀ {w : Walk} {fs : List Frame}, Framed s P root w (some c) fs →
    ∃ w', TransGen (Moves s) w w' ∧ Framed s P root w' none fs

/-- A walk gets past the cells that wait in its top frame one by one. -/
theorem Framed.pass_waiting {cs : List Address} (h : Framed s P root w none (⟨a, cs⟩ :: fs))
    (passes : ∀ r ∈ cs, Passes s P root r) :
    ∃ w', ReflTransGen (Moves s) w w' ∧ Framed s P root w' none (⟨a, []⟩ :: fs) := by
  induction cs generalizing w with
  | nil => exact ⟨w, .refl, h⟩
  | cons r cs ih =>
    obtain ⟨w', first, h'⟩ := passes r List.mem_cons_self h.take
    obtain ⟨w'', rest, h''⟩ := ih h' fun x hx => passes x (List.mem_cons_of_mem _ hx)
    exact ⟨w'', first.to_reflTransGen.trans rest, h''⟩

/-- **A walk gets past a settled cell**: it knows the cell, or enters it, gets past its references,
which are settled, and computes it. -/
theorem passes_of_settled {x : Value} (settled : s.Settled c x) (law : s.ValueLaw P)
    (inside : s.bounds.contains root = true) : Passes s P root c := by
  induction settled with
  | @cached c _ _ cached =>
    intro w fs h
    have known : w.Knows s c := knows_iff.2 (Or.inr (by rw [cached]; exact Option.some_ne_none _))
    exact ⟨_, .single (h.step_skip known), h.skip known⟩
  | @computed c lookup contained uncached references outside ih =>
    intro w fs h
    by_cases known : w.Knows s c
    · exact ⟨_, .single (h.step_skip known), h.skip known⟩
    cases found : (s.cell c).references.toList.find?
        ({ w with entered := w.entered.insert c } : Walk).isOpen with
    | some target =>
      -- a settled cell closes no cycle
      have settled : s.Settled c _ := .computed contained uncached references outside
      have closed := h.enter_closed inside known found
      exact absurd (closed.meetsCycle_of_open ((closed.open_iff c).2 (Or.inl rfl)))
        settled.not_meetsCycle
    | none =>
      have entered := h.enter_framed inside known found
      have enters : Moves s w _ := (h.step_enter known).trans (enter_of_none found)
      obtain ⟨w', moves, framed⟩ := entered.pass_waiting fun r hr => by
        rw [List.mem_reverse, List.mem_filter, Std.ExtTreeSet.mem_toList] at hr
        exact ih r hr
      exact ⟨_, (TransGen.head' enters moves).tail framed.step_compute, framed.compute_framed law⟩

/-! ## Walks in two stores that concur -/

/-- How the walks for an address end in two stores: both without a cycle or both at the same one,
with the same open cells. -/
inductive Result.Concurs (s t : Store) (root : Address) : Result → Result → Prop
  | finished {w v : Walk} : Concurs s t root (.finished w) (.finished v)
  | cycle {target c : Address} {fs : List Frame} {w v : Walk}
    (left : Closed s s.Settled root target w c fs)
    (right : Closed t t.Settled root target v c fs) :
    Concurs s t root (.cycle target w) (.cycle target v)

/-- The walks have the same frames, whatever else they know. -/
structure Abreast (s t : Store) (root : Address) (w v : Walk) (next : Option Address)
    (fs : List Frame) : Prop where
  left : Framed s s.Settled root w next fs
  right : Framed t t.Settled root v next fs

namespace Abreast

/-- Both walks enter a cell that neither of them knows: they find the same reference open or put the
same references above the cell. -/
theorem enter (h : Abreast s t root w v (some c) fs) (concurs : s.Concurs t)
    (inside : s.bounds.contains root = true) (unknown : ¬w.Knows s c) (unknown' : ¬v.Knows t c) :
    (∃ r q, w.step s = .ended r ∧ v.step t = .ended q ∧ r.Concurs s t root q) ∨
      ∃ w' v' fs', Moves s w w' ∧ Moves t v v' ∧ Abreast s t root w' v' none fs' := by
  have inside' : t.bounds.contains root = true := concurs.bounds ▸ inside
  have same_open : ({ v with entered := v.entered.insert c } : Walk).isOpen =
      ({ w with entered := w.entered.insert c } : Walk).isOpen := by
    funext b
    rw [Bool.eq_iff_iff]
    exact (h.right.open_enter unknown' v.stack b).trans (h.left.open_enter unknown w.stack b).symm
  have enters := h.left.step_enter unknown
  have enters' := h.right.step_enter unknown'
  cases found : (s.cell c).references.toList.find?
      ({ w with entered := w.entered.insert c } : Walk).isOpen with
  | some target =>
    have found' : (t.cell c).references.toList.find?
        ({ v with entered := v.entered.insert c } : Walk).isOpen = some target := by
      rw [concurs.references, same_open, found]
    have left := h.left.enter_closed inside unknown found
    have right := h.right.enter_closed inside' unknown' found'
    exact Or.inl ⟨_, _, enters.trans (enter_of_some found), enters'.trans (enter_of_some found'),
      .cycle left right⟩
  | none =>
    have found' : (t.cell c).references.toList.find?
        ({ v with entered := v.entered.insert c } : Walk).isOpen = none := by
      rw [concurs.references, same_open, found]
    have right := h.right.enter_framed inside' unknown' found'
    rw [concurs.references, concurs.bounds] at right
    have move' := enters'.trans (enter_of_none found')
    rw [concurs.references, concurs.bounds] at move'
    exact Or.inr ⟨_, _, _, enters.trans (enter_of_none found), move',
      h.left.enter_framed inside unknown found, right⟩

/-- Both walks get past the next cell if it is settled, and enter it otherwise. -/
theorem treat (h : Abreast s t root w v (some c) fs) (concurs : s.Concurs t)
    (inside : s.bounds.contains root = true) :
    (∃ r q, w.step s = .ended r ∧ v.step t = .ended q ∧ r.Concurs s t root q) ∨
      ∃ w' v' fs', TransGen (Moves s) w w' ∧ ReflTransGen (Moves t) v v' ∧
        Abreast s t root w' v' none fs' := by
  have inside' : t.bounds.contains root = true := concurs.bounds ▸ inside
  by_cases settled : ∃ x, s.Settled c x
  · obtain ⟨x, settled⟩ := settled
    have settled' : t.Settled c x := (concurs.settled c x).2 settled
    obtain ⟨w', moves, left⟩ := passes_of_settled settled valueLaw_settled inside h.left
    obtain ⟨v', moves', right⟩ := passes_of_settled settled' valueLaw_settled inside' h.right
    exact Or.inr ⟨w', v', fs, moves, moves'.to_reflTransGen, left, right⟩
  · have unknown : ¬w.Knows s c := fun known => settled
      ⟨_, h.left.progress.known_value valueLaw_settled (h.left.next_inside inside) known⟩
    have unknown' : ¬v.Knows t c := fun known => settled ⟨_, (concurs.settled c _).1 <|
      h.right.progress.known_value valueLaw_settled (h.right.next_inside inside') known⟩
    refine (h.enter concurs inside unknown unknown').imp id ?_
    rintro ⟨w', v', fs', move, move', abreast⟩
    exact ⟨w', v', fs', .single move, .single move', abreast⟩

/-- **The walks end alike or come to the same frames again.** -/
theorem step_cases (h : Abreast s t root w v next fs) (concurs : s.Concurs t)
    (inside : s.bounds.contains root = true) :
    (∃ r q, w.step s = .ended r ∧ v.step t = .ended q ∧ r.Concurs s t root q) ∨
      ∃ w' v' fs', TransGen (Moves s) w w' ∧ ReflTransGen (Moves t) v v' ∧
        Abreast s t root w' v' none fs' := by
  match next, fs, h with
  | some c, fs, h => exact h.treat concurs inside
  | none, ⟨a, c :: cs⟩ :: fs, h => exact treat ⟨h.left.take, h.right.take⟩ concurs inside
  | none, ⟨a, []⟩ :: fs, h =>
    exact Or.inr ⟨_, _, fs, .single h.left.step_compute, .single h.right.step_compute,
      h.left.compute_framed valueLaw_settled, h.right.compute_framed valueLaw_settled⟩
  | none, [], h =>
    exact Or.inl ⟨_, _, step_of_nil h.left.stack, step_of_nil h.right.stack, .finished⟩

/-- **The walks end alike.** -/
theorem run (h : Abreast s t root w v next fs) (concurs : s.Concurs t)
    (inside : s.bounds.contains root = true) : (w.run s).Concurs s t root (v.run t) := by
  induction w using (wellFounded_moves s).transGen.induction generalizing v next fs with
  | _ w ih =>
  rcases h.step_cases concurs inside with ended | ⟨w', v', fs', moves, moves', h'⟩
  · obtain ⟨r, q, ended, ended', alike⟩ := ended
    rwa [run_of_ended ended, run_of_ended ended']
  · rw [run_of_moves moves.to_reflTransGen, run_of_moves moves']
    exact ih w' (transGen_swap.2 moves) h'

end Abreast

end Walk

namespace Store

variable {s s' t t' : Store} {a b : Address} {marked : Address → Prop}

/-! ## What queries remember -/

/-- The store remembers more: the cycle error for marked cells, which are not settled, and else only
what is settled. -/
structure Marks (s s' : Store) (marked : Address → Prop) : Prop where
  keeps : s.Keeps s'
  stated : ∀ b, marked b → (s'.cell b).cached = some cycleError
  unsettled : ∀ b v, marked b → ¬s.Settled b v
  others : ∀ b, ¬marked b → (s'.cell b).cached = (s.cell b).cached ∨
    ∃ v, (s'.cell b).cached = some v ∧ s.Settled b v

namespace Marks

theorem refl (s : Store) : Marks s s fun _ => False where
  keeps := .refl s
  stated _ none := none.elim
  unsettled _ _ none := none.elim
  others _ _ := Or.inl rfl

/-- What is settled stays settled. -/
theorem settled (h : Marks s s' marked) (linked : s.Linked) {v : Value} (settled : s.Settled b v) :
    s'.Settled b v := by
  induction settled with
  | @cached b v inside cached =>
    have settled : s.Settled b v := .cached inside cached
    have inside' : s'.bounds.contains b = true := h.keeps.bounds ▸ inside
    refine .cached inside' ?_
    rcases h.others b (fun mark => h.unsettled b v mark settled) with same | ⟨v', cached', settled'⟩
    · rw [same, cached]
    · rw [cached', settled'.unique linked settled]
  | @computed b lookup inside uncached references outside ih =>
    have settled : s.Settled b _ := .computed inside uncached references outside
    have inside' : s'.bounds.contains b = true := h.keeps.bounds ▸ inside
    rcases h.others b (fun mark => h.unsettled b _ mark settled) with same | ⟨v', cached', settled'⟩
    · rw [← Cell.expr_congr (h.keeps.cell b)]
      refine .computed inside' (same.trans uncached) (fun r hr => ih r (h.keeps.follows.1 hr)) ?_
      exact fun r hr contained => outside r (h.keeps.reads.1 hr) (h.keeps.bounds ▸ contained)
    · exact .cached inside' (by rw [cached', settled'.unique linked settled])

/-- A value that is remembered for a cell without a mark was settled before. -/
theorem settled_of_cached (h : Marks s s' marked) (inside : s.bounds.contains b = true) {v : Value}
    (unmarked : ¬marked b) (cached : (s'.cell b).cached = some v) : s.Settled b v := by
  rcases h.others b unmarked with same | ⟨v', cached', settled⟩
  · exact .cached inside (same.symm.trans cached)
  · exact Option.some.inj (cached'.symm.trans cached) ▸ settled

/-- What is remembered with the marks on one side is settled with them on the other. -/
theorem settled_of_remembered (h : Marks s s' marked) (h' : Marks t t' marked)
    (concurs : s.Concurs t) {v : Value} (remembered : s'.Remembered b v) : t'.Settled b v := by
  obtain ⟨inside, cached⟩ := remembered
  by_cases mark : marked b
  · have error : v = cycleError := Option.some.inj (cached.symm.trans (h.stated b mark))
    have inside' : t'.bounds.contains b = true := by
      rw [h'.keeps.bounds, concurs.bounds, ← h.keeps.bounds, inside]
    exact .cached inside' (error ▸ h'.stated b mark)
  · have settled := h.settled_of_cached (h.keeps.bounds ▸ inside) mark cached
    exact h'.settled concurs.right ((concurs.settled b v).2 settled)

/-- **Stores that concur and get the same marks concur again.** -/
theorem concurs (h : Marks s s' marked) (h' : Marks t t' marked) (concurs : s.Concurs t) :
    s'.Concurs t' := by
  refine .of_remembered (h.keeps.linked concurs.left) (h'.keeps.linked concurs.right) ?_
    (fun b => ?_) (fun _ _ => h.settled_of_remembered h' concurs)
    fun _ _ => h'.settled_of_remembered h concurs.symm
  · rw [h'.keeps.bounds, concurs.bounds, h.keeps.bounds]
  · rw [Cell.formula_congr (h'.keeps.cell b), concurs.formula, Cell.formula_congr (h.keeps.cell b)]

/-- Cells from which a cycle is met get marks. -/
theorem cacheCycle (h : Marks s s' fun _ => False) {cells : AddressSet}
    (meets : ∀ b ∈ cells, MeetsCycle s b) : Marks s (s'.cacheCycle cells) (· ∈ cells) where
  keeps := h.keeps.trans <| keeps_cacheCycle fun b hb =>
    (h.keeps.stored b).2 (mem_of_cached_eq_none (meets b hb).1)
  stated b hb := by rw [cached_cacheCycle, if_pos hb]
  unsettled b _ hb settled := settled.not_meetsCycle (meets b hb)
  others b hb := by
    rw [cached_cacheCycle, if_neg hb]
    exact h.others b id

end Marks

/-- What a walk has computed is settled. -/
theorem marks_cacheAll {w : Walk} (progress : Progress s s.Settled a w) :
    Marks s (s.cacheAll w.computed) fun _ => False where
  keeps := keeps_cacheAll fun _ hb => mem_of_computed progress hb
  stated _ none := none.elim
  unsettled _ _ none := none.elim
  others b _ := by
    rw [cached_cacheAll]
    split
    · rename_i v found
      exact Or.inr ⟨v, rfl, progress.values b v found⟩
    · exact Or.inl rfl

/-- The asked cell and the cells of the cycle, which are those that get the cycle error, are cells
from which a cycle is met. -/
theorem meetsCycle_of_marked {P : Address → Value → Prop} {target c : Address} {w : Walk}
    {fs : List Frame} (closed : Closed s P a target w c fs)
    (hb : b ∈ (.ofList (a :: cycleCells target w) : AddressSet)) : MeetsCycle s b := by
  refine closed.meetsCycle_of_open ?_
  rcases mem_marked.1 hb with rfl | hb
  · exact (closed.open_iff b).2 closed.nested.root_mem
  · exact (List.mem_filter.1 hb).2

/-- **Stores that concur answer a query alike and concur after it.** -/
theorem Concurs.value (h : s.Concurs t) (a : Address) :
    (t.value a).1 = (s.value a).1 ∧ (s.value a).2.Concurs (t.value a).2 := by
  refine ⟨h.answer a, ?_⟩
  cases inside : s.bounds.contains a with
  | false =>
    rw [value_of_outside inside, value_of_outside (h.bounds ▸ inside)]
    exact h
  | true =>
    have inside' : t.bounds.contains a = true := h.bounds ▸ inside
    have alike := Abreast.run ⟨framed_start a, framed_start a⟩ h inside
    have ended := run_ends (valueLaw_settled (s := s)) inside
    have ended' := run_ends (valueLaw_settled (s := t)) inside'
    generalize ends : (start a).run s = r at alike ended
    generalize ends' : (start a).run t = q at alike ended'
    cases alike with
    | finished =>
      cases ended with
      | finished _ progress =>
      cases ended' with
      | finished _ progress' =>
      rw [value_of_walk inside ends, value_of_walk inside' ends']
      exact (marks_cacheAll progress).concurs (marks_cacheAll progress') h
    | @cycle target c fs w v left right =>
      have same : (.ofList (a :: cycleCells target v) : AddressSet) =
          .ofList (a :: cycleCells target w) := Std.ExtTreeSet.ext_mem fun b => by
        rw [mem_marked, mem_marked, left.mem_cycleCells_iff, right.mem_cycleCells_iff]
      rw [value_of_cycle inside (uncached_of_cycle ends) ends,
        value_of_cycle inside' (uncached_of_cycle ends') ends']
      have marks := (marks_cacheAll left.progress).cacheCycle fun _ => meetsCycle_of_marked left
      have marks' := (marks_cacheAll right.progress).cacheCycle fun _ => meetsCycle_of_marked right
      rw [same] at marks'
      rw [same]
      exact marks.concurs marks' h

end Store

end Spreadsheet
