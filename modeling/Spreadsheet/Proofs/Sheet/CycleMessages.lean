import Spreadsheet.Proofs.Sheet.SingleCycles

/-!
# Which cells state a cycle

A query that meets a cycle answers the cycle error and keeps it for the asked cell and for the cells
of that cycle. A cell that reaches more than one cycle may be computed later from the errors that
are kept, and an operation hides the message of an error that it is given: only a bare reference
hands it on (`Expr.reference_of_eval_eq_cycleError`). So a cell on a cycle states it if it reaches
no other cycle, if cells without values still lead to a cycle of such cells, or if bare references
lead to a cell for which the cycle error is kept, and in no other case
(`Sheet.Reachable.value_onCycle`). Which of these holds depends on the order of the queries.
-/

namespace Spreadsheet

/-! ## Operations hide the cycle error -/

/-- A message that starts in another way is not that of a cycle. -/
theorem error_ne_cycleError {message : String} (start : message.toList.head? ≠ some 'P') :
    Value.error message ≠ cycleError := by
  rintro same
  injection same with same
  rw [same] at start
  exact start rfl

namespace Value

theorem unexpected_ne_cycleError (expected : String) (v : Value) :
    unexpected expected v ≠ cycleError := by
  refine error_ne_cycleError ?_
  simp [String.toList_append]

theorem ne_cycleError_of_expectNumber {x e : Value} (h : x.expectNumber = .error e) :
    e ≠ cycleError := by
  cases x with
  | number a => cases h
  | text s =>
    injection h with h
    rw [← h]
    exact unexpected_ne_cycleError _ _
  | error message =>
    injection h with h
    rw [← h]
    exact unexpected_ne_cycleError _ _

theorem mapNumber_ne_cycleError (f : Float → Float) (x : Value) : mapNumber f x ≠ cycleError := by
  rw [mapNumber]
  split
  · rintro ⟨⟩
  · exact ne_cycleError_of_expectNumber ‹_›

theorem mapNumbers_ne_cycleError (f : Float → Float → Float) (x y : Value) :
    mapNumbers f x y ≠ cycleError := by
  rw [mapNumbers]
  split
  · exact ne_cycleError_of_expectNumber ‹_›
  · split
    · exact ne_cycleError_of_expectNumber ‹_›
    · rintro ⟨⟩

end Value

theorem UnaryOp.apply_ne_cycleError (op : UnaryOp) (x : Value) : op.apply x ≠ cycleError := by
  cases op with
  | negate => exact Value.mapNumber_ne_cycleError _ x
  | plus => exact Value.mapNumber_ne_cycleError _ x

theorem BinaryOp.apply_ne_cycleError (op : BinaryOp) (x y : Value) : op.apply x y ≠ cycleError := by
  cases op <;> exact Value.mapNumbers_ne_cycleError _ x y

namespace Builtin

theorem ne_cycleError_of_expectWhole {v e : Value} (h : expectWhole v = .error e) :
    e ≠ cycleError := by
  unfold expectWhole at h
  split at h
  · cases h
  · injection h with h
    rw [← h]
    exact Value.unexpected_ne_cycleError _ _

theorem slice_ne_cycleError (s : String) (first last : Int) : slice s first last ≠ cycleError := by
  unfold slice
  dsimp only
  split
  · refine error_ne_cycleError ?_
    simp [String.toList_append]
  · rintro ⟨⟩

theorem substring_ne_cycleError (v first last : Value) : substring v first last ≠ cycleError := by
  rw [substring.eq_def]
  split
  · split
    · exact ne_cycleError_of_expectWhole ‹_›
    · split
      · exact ne_cycleError_of_expectWhole ‹_›
      · exact slice_ne_cycleError _ _ _
  · exact Value.unexpected_ne_cycleError _ _

theorem wrongCount_ne_cycleError (function : Builtin) (count : Nat) :
    wrongCount function count ≠ cycleError := by
  refine error_ne_cycleError ?_
  cases function <;> simp [name, String.toList_append]

theorem apply_ne_cycleError (function : Builtin) (args : List Value) :
    function.apply args ≠ cycleError := by
  unfold apply
  split
  · exact Value.mapNumber_ne_cycleError _ _
  · exact Value.mapNumbers_ne_cycleError _ _ _
  · exact substring_ne_cycleError _ _ _
  · rintro ⟨⟩
  · exact Value.mapNumbers_ne_cycleError _ _ _
  · exact wrongCount_ne_cycleError _ _

end Builtin

namespace Expr

variable {e : Expr} {a b : Address} {lookup : Address → Value}

/-- **Only a bare reference hands the cycle error on**, among the formulas that read something. -/
theorem reference_of_eval_eq_cycleError (reads : a ∈ e.references)
    (h : e.eval lookup = cycleError) : e = .reference a := by
  rw [mem_references] at reads
  cases e with
  | number x => simp [Expr.reads] at reads
  | text s => simp [Expr.reads] at reads
  | reference b =>
    rw [Expr.reads, List.mem_singleton] at reads
    rw [reads]
  | unary op operand =>
    rw [eval] at h
    exact absurd h (op.apply_ne_cycleError _)
  | binary op left right =>
    rw [eval] at h
    exact absurd h (op.apply_ne_cycleError _ _)
  | call function args =>
    rw [eval] at h
    exact absurd h (function.apply_ne_cycleError _)
  | error message => simp [Expr.reads] at reads

end Expr

/-! ## Cells that state a cycle -/

namespace Store

/-- The cycle error is kept for the cell, or bare references lead from it to a cell for which it is
kept. -/
inductive Echoes (s : Store) : Address → Prop
  | kept {a : Address} (h : (s.cell a).cached = some cycleError) : Echoes s a
  | passed {a b : Address} (uncached : (s.cell a).cached = none)
    (reference : (s.cell a).expr = .reference b) (inside : s.bounds.contains b = true)
    (h : Echoes s b) : Echoes s a

end Store

namespace Sheet

open Relation Store Walk

variable {s : Sheet} {a b : Address} {v : Value}

theorem Sound.reads_iff_expr (h : s.Sound) :
    s.store.Reads a b ↔ b ∈ (s.store.cell a).expr.references := by
  rw [h.reads_iff, (h.linked.parsed a).expr, formula]

/-- What a computed cell that reaches a cycle echoes is what it reads from another one that does. -/
theorem Sound.eval_eq_cycleError_iff (hs : s.Sound) {lookup : Address → Value}
    (uncached : (s.store.cell a).cached = none) (follows : s.store.Follows a b)
    (read : lookup b = cycleError ↔ Echoes s.store b) :
    (s.store.cell a).expr.eval lookup = cycleError ↔ Echoes s.store a := by
  have reads : b ∈ (s.store.cell a).expr.references := hs.reads_iff_expr.1 follows.1
  constructor
  · intro answer
    have reference := Expr.reference_of_eval_eq_cycleError reads answer
    rw [reference, Expr.eval] at answer
    exact .passed uncached reference follows.2 (read.1 answer)
  · intro echoes
    cases echoes with
    | kept cached =>
      rw [uncached] at cached
      cases cached
    | @passed _ c _ reference _ echoes =>
      obtain rfl : b = c := by
        rw [reference, Expr.mem_references, Expr.reads] at reads
        exact List.mem_singleton.1 reads
      rw [reference, Expr.eval]
      exact read.2 echoes

/-- A value that a query computes without meeting a cycle is the cycle error if the cell echoes
one. -/
theorem Sound.cycleLaw (hs : s.Sound) : s.store.ValueLaw fun a v =>
    ¬MeetsCycle s.store a ∧
      (ReachesCycle s.store a → (v = cycleError ↔ Echoes s.store a)) where
  cached a v inside cached := by
    refine ⟨lawMeets.cached a v inside cached, fun _ => ⟨?_, fun echoes => ?_⟩⟩
    · rintro rfl
      exact .kept cached
    · cases echoes with
      | kept kept => exact Option.some.inj (cached.symm.trans kept)
      | passed uncached =>
        rw [uncached] at cached
        cases cached
  computed a lookup contained uncached inside outside := by
    have no_cycle := lawMeets.computed a lookup contained uncached
      (fun r hr => (inside r hr).1) outside
    refine ⟨no_cycle, fun cycle => ?_⟩
    obtain ⟨b, follows, cycle⟩ := cycle.exists_follows
    exact hs.eval_eq_cycleError_iff uncached follows ((inside b follows).2 cycle)

/-- The references of a text are followed if they lie inside the bounds. -/
theorem Sound.follows_of_text (hs : s.Sound) (text : String) (e : Expr) (set : s.formula a = text)
    (parsed : Expr.ofText text = e) (reads : b ∈ e.reads) (inside : s.contains b = true) :
    s.store.Follows a b := by
  refine ⟨hs.reads_iff.2 ?_, inside⟩
  rwa [set, parsed, Expr.mem_references]

theorem onCycle_after_value (cycle : OnCycle s.store a) (b : Address) :
    OnCycle (s.after (.value b)).store a :=
  TransGen.mono (fun _ _ => (value_keeps s.store b).follows.2) _ _ cycle

/-- **A cell on a cycle states it** if it reaches no other cycle. If it does, it states its cycle if
a query meets a cycle of cells without values, or if bare references lead from it to a cell for
which the cycle error is kept, and answers another error in all other cases. -/
theorem Reachable.value_onCycle (h : s.Reachable) (cycle : OnCycle s.store a) :
    (Untangled s.store a → (s.value a).1 = cycleError) ∧
      ((s.value a).1 = cycleError ↔ MeetsCycle s.store a ∨ Echoes s.store a) ∧
      ∃ message, (s.value a).1 = .error message := by
  have reaches : ReachesCycle s.store a := ⟨a, .refl, cycle⟩
  have error : (s.value a).1.isError = true := h.flagged.isError_value h.sound reaches
  have inside : s.store.bounds.contains a = true := contains_of_onCycle cycle
  refine ⟨h.value_of_untangled cycle, ?_, Value.isError_iff.1 error⟩
  rcases value_cases h.sound.cycleLaw inside with ⟨no_cycle, iff⟩ | ⟨answer, meets⟩
  · exact (iff reaches).trans (or_iff_right no_cycle).symm
  · exact ⟨fun _ => Or.inl meets, fun _ => answer⟩

/-- Two cells that read each other and nothing else both state their cycle, the second one also
after a query for the first one. -/
theorem value_of_two_cells :
    let s := ((empty 2 2).after (.set ⟨0, 0⟩ "=-B1")).after (.set ⟨0, 1⟩ "=-A1")
    (s.value ⟨0, 1⟩).1 = cycleError ∧ ((s.after (.value ⟨0, 0⟩)).value ⟨0, 1⟩).1 = cycleError := by
  intro s
  have reachable : s.Reachable := ((Reachable.empty 2 2).after _).after _
  have there : s.store.Follows ⟨0, 1⟩ ⟨0, 0⟩ :=
    reachable.sound.follows_of_text "=-A1" (.unary .negate (.reference ⟨0, 0⟩))
      (by unfold s; cbv) (by cbv) List.mem_cons_self (by unfold s; cbv)
  have back : s.store.Follows ⟨0, 0⟩ ⟨0, 1⟩ :=
    reachable.sound.follows_of_text "=-B1" (.unary .negate (.reference ⟨0, 1⟩))
      (by unfold s; cbv) (by cbv) List.mem_cons_self (by unfold s; cbv)
  have cycle : OnCycle s.store ⟨0, 1⟩ := .head there (.single back)
  have texts : ∀ a, s.formula a =
      if ⟨0, 1⟩ = a then "=-A1" else if ⟨0, 0⟩ = a then "=-B1" else "" := by
    intro a
    rw [formula_after_set (by cbv), formula_after_set (by cbv)]
    rfl
  have untangled : Untangled s.store ⟨0, 1⟩ := by
    intro x y y' _ hy hy' _ _
    have reads := reachable.sound.reads_iff.1 hy.1
    have reads' := reachable.sound.reads_iff.1 hy'.1
    rw [texts] at reads reads'
    split_ifs at reads reads'
    · rw [show Expr.ofText _ = .unary .negate (.reference ⟨0, 0⟩) by cbv,
        Expr.mem_references] at reads reads'
      exact (List.mem_singleton.1 reads).trans (List.mem_singleton.1 reads').symm
    · rw [show Expr.ofText _ = .unary .negate (.reference ⟨0, 1⟩) by cbv,
        Expr.mem_references] at reads reads'
      exact (List.mem_singleton.1 reads).trans (List.mem_singleton.1 reads').symm
    · exact absurd reads Std.ExtTreeSet.not_mem_empty
  have kept : Echoes (s.after (.value ⟨0, 0⟩)).store ⟨0, 1⟩ := .kept (by unfold s; cbv)
  refine ⟨(reachable.value_onCycle cycle).1 untangled, ?_⟩
  exact ((reachable.after (.value ⟨0, 0⟩)).value_onCycle (onCycle_after_value cycle ⟨0, 0⟩)).2.1.2
    (Or.inr kept)

/-- A cell on a cycle may answer another error. `A1` reads itself and `B1`, which reads `A1`: after
a query for `A1`, which meets the cycle of `A1` alone, `B1` is computed from what is kept for `A1`.
If `B1` is asked for first it states its cycle. -/
theorem value_of_overlapping_cycles :
    let s := ((empty 2 2).after (.set ⟨0, 0⟩ "=A1+B1")).after (.set ⟨0, 1⟩ "=-A1")
    let s' := s.after (.value ⟨0, 0⟩)
    (s'.Reachable ∧ s'.contains ⟨0, 1⟩ = true ∧ OnCycle s'.store ⟨0, 1⟩ ∧
        (s'.value ⟨0, 1⟩).1 ≠ cycleError) ∧
      (s'.value ⟨0, 1⟩).1 = .error "Expected number, but got Error" ∧
      (s.value ⟨0, 1⟩).1 = cycleError := by
  intro s s'
  have reachable : s.Reachable := ((Reachable.empty 2 2).after _).after _
  have there : s.store.Follows ⟨0, 1⟩ ⟨0, 0⟩ :=
    reachable.sound.follows_of_text "=-A1" (.unary .negate (.reference ⟨0, 0⟩))
      (by unfold s; cbv) (by cbv) List.mem_cons_self (by unfold s; cbv)
  have back : s.store.Follows ⟨0, 0⟩ ⟨0, 1⟩ :=
    reachable.sound.follows_of_text "=A1+B1" (.binary .add (.reference ⟨0, 0⟩) (.reference ⟨0, 1⟩))
      (by unfold s; cbv) (by cbv) (List.mem_cons_of_mem _ List.mem_cons_self) (by unfold s; cbv)
  have cycle : OnCycle s'.store ⟨0, 1⟩ := onCycle_after_value (.head there (.single back)) ⟨0, 0⟩
  have answer : (s'.value ⟨0, 1⟩).1 = .error "Expected number, but got Error" := by
    unfold s' s
    cbv
  have first : (s.value ⟨0, 1⟩).1 = cycleError := by
    unfold s
    cbv
  refine ⟨⟨reachable.after _, contains_of_onCycle cycle, cycle, ?_⟩, answer, first⟩
  rw [answer]
  exact error_ne_cycleError (by decide)

end Sheet

end Spreadsheet
