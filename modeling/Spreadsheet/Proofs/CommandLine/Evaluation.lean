import Spreadsheet.CommandLine.Run
import Spreadsheet.Proofs.Formula.Messages
import Spreadsheet.Proofs.Sheet.CycleMessages

/-!
# The order in which a formula queries a sheet

A formula is evaluated against a sheet by querying its references one after the other, and where
there are cycles a query changes what later ones answer. But it changes the message of an error at
most (`Sheet.Reachable.muted_value_congr`), and a formula with more than one reference shows no
message. So the value of a formula is the one that it has if each reference is looked up in the
sheet as it was, whatever the order of the queries (`Sheet.Reachable.evaluateIn_eq`). The formula is
that of a text whose equals sign may be left out (`commandExpr_cases`).
-/

namespace Spreadsheet

/-! ## The formula of a command -/

/-- **The equals sign of a formula**: a text that starts with one is parsed as it is, and any other
text with one equals sign put in front of it. -/
theorem commandExpr_cases (formula : String) :
    (∃ body, formula = "=" ++ body ∧ commandExpr formula = Expr.ofText formula) ∨
      ((∀ body, formula ≠ "=" ++ body) ∧ commandExpr formula = Expr.ofText ("=" ++ formula)) := by
  by_cases equals : formula.toList.head? = some '='
  · obtain ⟨cs, text⟩ := List.head?_eq_some_iff.1 equals
    refine Or.inl ⟨String.ofList cs, ?_, ?_⟩
    · apply String.toList_injective
      simp [text]
    · rw [commandExpr, if_pos equals]
  · refine Or.inr ⟨?_, ?_⟩
    · rintro body rfl
      rw [String.toList_append] at equals
      exact equals rfl
    · rw [commandExpr, if_neg equals]

/-- The equals sign may be left out, unless the text behind it starts with another one. -/
theorem commandExpr_equals_append {body : String} (h : ∀ rest, body ≠ "=" ++ rest) :
    commandExpr ("=" ++ body) = commandExpr body := by
  have with_sign : commandExpr ("=" ++ body) = Expr.ofText ("=" ++ body) := by
    rcases commandExpr_cases ("=" ++ body) with ⟨_, -, parsed⟩ | ⟨other, -⟩
    · exact parsed
    · exact absurd rfl (other body)
  rcases commandExpr_cases body with ⟨rest, sign, -⟩ | ⟨-, parsed⟩
  · exact absurd sign (h rest)
  · rw [with_sign, parsed]

end Spreadsheet

namespace Spreadsheet.Sheet

open Store Walk

variable {s t : Sheet} {e : Expr} {order : List Address} {a : Address}

/-! ## Queries in a given order -/

/-- The value of an expression in a sheet. The addresses that it reads are queried in the given
order. -/
def evaluateIn (s : Sheet) (order : List Address) (e : Expr) : Value × Sheet :=
  let (values, s) := queryAll value s order
  let known : AddressMap Value := Std.ExtTreeMap.ofList (order.zip values)
  (e.eval fun a => known[a]?.getD Value.empty, s)

/-- A command queries row by row. -/
theorem evaluate_eq_evaluateIn (s : Sheet) (e : Expr) :
    s.evaluate e = s.evaluateIn e.references.toList e := rfl

/-- Sheets with the same bounds and texts answer the same values, the messages of errors aside. -/
theorem Reachable.muted_value_congr (h : s.Reachable) (h' : t.Reachable)
    (bounds : t.bounds = s.bounds) (texts : t.formula = s.formula) (a : Address) :
    (t.value a).1.muted = (s.value a).1.muted := by
  have same_cycles := h.sound.reachesCycle_congr h'.sound bounds (congrFun texts) (a := a)
  by_cases cycle : ReachesCycle s.store a
  · exact Value.muted_eq_of_isError (h'.flagged.isError_value h'.sound (same_cycles.2 cycle))
      (h.flagged.isError_value h.sound cycle)
  · have value := h.coherent.recalculates h.sound cycle
    have value' := h'.coherent.recalculates h'.sound (mt same_cycles.1 cycle)
    rw [bounds, texts] at value'
    rw [value'.unique value]

/-- What is answered in the course of some queries is what the sheet answers before them, the
messages of errors aside. -/
theorem Reachable.muted_of_mem_zip (h : s.Reachable) {v : Value}
    (mem : (a, v) ∈ order.zip (queryAll value s order).1) : v.muted = (s.value a).1.muted := by
  induction order generalizing s with
  | nil => cases mem
  | cons b order ih =>
    rcases List.mem_cons.1 mem with first | mem
    · obtain ⟨rfl, rfl⟩ := Prod.mk.inj first
      rfl
    · rw [ih (h.after (.value b)) mem]
      exact h.muted_value_congr (h.after (.value b)) (bounds_value s b) (formula_value s b) a

/-- A value that is listed for an address is the one that is looked up, if no address is listed
twice. -/
theorem getElem?_ofList_zip {values : List Value} {v : Value} (nodup : order.Nodup)
    (length : values.length = order.length) (mem : (a, v) ∈ order.zip values) :
    (Std.ExtTreeMap.ofList (order.zip values) : AddressMap Value)[a]? = some v := by
  have distinct : (order.zip values).Pairwise fun x y => ¬compare x.1 y.1 = .eq := by
    rw [← List.map_fst_zip length.ge] at nodup
    refine (List.pairwise_map.1 nodup).imp fun {x y} differ same => differ ?_
    exact Std.LawfulEqOrd.eq_of_compare same
  exact Std.ExtTreeMap.getElem?_ofList_of_mem Std.ReflOrd.compare_self distinct mem

/-- What is looked up for an address that was queried is what the sheet answers before the queries,
the messages of errors aside. -/
theorem Reachable.muted_known (h : s.Reachable) (nodup : order.Nodup) (mem : a ∈ order) :
    (((Std.ExtTreeMap.ofList (order.zip (queryAll value s order).1) : AddressMap Value)[a]?).getD
      Value.empty).muted = (s.value a).1.muted := by
  have length := length_queryAll value s order
  rw [← List.map_fst_zip length.ge] at mem
  obtain ⟨⟨b, v⟩, queried, rfl⟩ := List.mem_map.1 mem
  rw [getElem?_ofList_zip nodup length queried, Option.getD_some]
  exact h.muted_of_mem_zip queried

/-- **In any order of the queries**, the value of an expression is the one that it has if each
reference is looked up in the sheet as it was before them. -/
theorem Reachable.evaluateIn_eq (h : s.Reachable) (perm : order.Perm e.references.toList) :
    (s.evaluateIn order e).1 = e.eval fun a => (s.value a).1 := by
  by_cases reference : ∃ a, e = .reference a
  · -- a bare reference shows the message, but it is the only one that is queried
    obtain ⟨a, rfl⟩ := reference
    obtain rfl : order = [a] := List.perm_singleton.1 perm
    have known : (Std.ExtTreeMap.ofList ([a].zip (queryAll value s [a]).1) : AddressMap Value)[a]? =
        some (s.value a).1 :=
      getElem?_ofList_zip (List.nodup_singleton a) (length_queryAll value s [a]) List.mem_cons_self
    simp only [evaluateIn, Expr.eval, known, Option.getD_some]
  · have distinct : e.references.toList.Nodup :=
      Std.ExtTreeSet.distinct_toList.imp fun {x y} differ same => by
        rw [same] at differ
        exact differ Std.ReflOrd.compare_self
    refine Expr.eval_of_muted (fun a bare => reference ⟨a, bare⟩) fun a ha => ?_
    have queried : a ∈ order := perm.mem_iff.2 (Std.ExtTreeSet.mem_toList.2 ha)
    exact h.muted_known (perm.nodup_iff.2 distinct) queried

/-- **The order of the queries makes no difference** for the value of a formula, also where cycles
make the answers depend on it. It is the value that a command answers. If no reference reaches a
cycle, it is the value of the formula with each reference replaced by what recalculation gives. -/
theorem Reachable.evaluateIn_congr (h : s.Reachable) (formula : String)
    {order order' : List Address}
    (perm : order.Perm (commandExpr formula).references.toList)
    (perm' : order'.Perm (commandExpr formula).references.toList) :
    (s.evaluateIn order (commandExpr formula)).1 = (s.evaluateIn order' (commandExpr formula)).1 ∧
    (s.evaluateIn order (commandExpr formula)).1 = (s.evaluate (commandExpr formula)).1 ∧
    ((∀ r ∈ (commandExpr formula).references, ¬ReachesCycle s.store r) →
      ∃ lookup : Address → Value,
        (∀ r ∈ (commandExpr formula).references, Recalculates s.bounds s.formula r (lookup r)) ∧
        (s.evaluateIn order (commandExpr formula)).1 = (commandExpr formula).eval lookup) := by
  have before := h.evaluateIn_eq perm
  refine ⟨before.trans (h.evaluateIn_eq perm').symm, ?_, fun acyclic => ?_⟩
  · rw [evaluate_eq_evaluateIn, before, h.evaluateIn_eq (List.Perm.refl _)]
  · refine ⟨fun a => (s.value a).1, fun r hr => ?_, before⟩
    exact h.coherent.recalculates h.sound (acyclic r hr)

/-- Of two cells on overlapping cycles the second one answers another error if the first one is
queried before it, and their sum is the same error in both orders. A cell beside them is
recalculated. -/
theorem evaluateIn_congr_overlapping :
    let s := ((empty 2 2).after (.set ⟨0, 0⟩ "=A1+B1")).after (.set ⟨0, 1⟩ "=-A1")
    ((queryAll value s [⟨0, 0⟩, ⟨0, 1⟩]).1 =
          [cycleError, .error "Expected number, but got Error"] ∧
        (queryAll value s [⟨0, 1⟩, ⟨0, 0⟩]).1 = [cycleError, cycleError] ∧
        (s.evaluateIn [⟨0, 0⟩, ⟨0, 1⟩] (commandExpr "A1+B1")).1 =
          (s.evaluateIn [⟨0, 1⟩, ⟨0, 0⟩] (commandExpr "A1+B1")).1) ∧
      ¬ReachesCycle s.store ⟨1, 1⟩ ∧ ∃ lookup : Address → Value,
        (∀ r ∈ (commandExpr "B2").references, Recalculates s.bounds s.formula r (lookup r)) ∧
        (s.evaluateIn [⟨1, 1⟩] (commandExpr "B2")).1 = (commandExpr "B2").eval lookup := by
  intro s
  have reachable : s.Reachable := ((Reachable.empty 2 2).after _).after _
  have sum : (commandExpr "A1+B1").references.toList = [⟨0, 0⟩, ⟨0, 1⟩] := by cbv
  have single : (commandExpr "B2").references.toList = [⟨1, 1⟩] := by cbv
  have beside : ¬ReachesCycle s.store ⟨1, 1⟩ :=
    not_reachesCycle_of_blank reachable.sound (by unfold s; cbv)
  refine ⟨⟨by unfold s; cbv, by unfold s; cbv, ?_⟩, beside, ?_⟩
  · refine (reachable.evaluateIn_congr "A1+B1" ?_ ?_).1
    · exact .of_eq sum.symm
    · exact sum ▸ List.Perm.swap _ _ _
  · refine (reachable.evaluateIn_congr "B2" (.of_eq single.symm) (.of_eq single.symm)).2.2
      fun r hr => ?_
    rw [← Std.ExtTreeSet.mem_toList, single, List.mem_singleton] at hr
    exact hr ▸ beside

end Spreadsheet.Sheet
