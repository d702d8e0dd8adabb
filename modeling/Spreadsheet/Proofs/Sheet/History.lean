import Spreadsheet.Sheet.Saved

/-!
# Histories of a sheet

A sheet is reachable if it is a new sheet or a loaded one, changed and queried by any calls
(`Sheet.Reachable`). A call is refused and leaves the sheet as it is, or it is an edit or a query
(`after_cases`). Since a document is loaded by setting its cells, what holds of new sheets and
survives every call holds of every reachable sheet (`Reachable.induct`).
-/

namespace Spreadsheet.Sheet

/-- A call on a sheet: an edit, a query, or a change of the bounds. -/
inductive Call where
  | set (a : Address) (text : String)
  | value (a : Address)
  | extend (rows columns : Nat)
  | shrink (rows columns : Nat)

/-- The sheet after a call. -/
def after (s : Sheet) : Call → Sheet
  | .set a text =>
    match s.set a text with
    | .ok (_, s') => s'
    | .error _ => s
  | .value a => (s.value a).2
  | .extend rows columns => (s.extend rows columns).2
  | .shrink rows columns => (s.shrink rows columns).2

/-- The sheets that calls lead to, from a new or a loaded sheet. -/
inductive Reachable : Sheet → Prop
  | empty (rows columns : Nat) : Reachable (empty rows columns)
  | load {text : String} {s : Sheet} (h : load text = .ok s) : Reachable s
  | after {s : Sheet} (h : Reachable s) (c : Call) : Reachable (s.after c)

/-- A successful edit, with the addresses whose values it made out of date. -/
inductive Edit (s : Sheet) : AddressSet → Sheet → Prop
  | set {a : Address} {text : String} {stale : AddressSet} {s' : Sheet}
    (h : s.set a text = .ok (stale, s')) : Edit s stale s'
  | extend (rows columns : Nat) : Edit s (s.extend rows columns).1 (s.extend rows columns).2
  | shrink (rows columns : Nat) : Edit s (s.shrink rows columns).1 (s.shrink rows columns).2

theorem after_set {s s' : Sheet} {a : Address} {text : String} {stale : AddressSet}
    (h : s.set a text = .ok (stale, s')) : s.after (.set a text) = s' := by
  rw [after, h]

theorem after_value (s : Sheet) (a : Address) : s.after (.value a) = (s.value a).2 := rfl

/-- **All that a call can do**: nothing, an edit, or a query. -/
theorem after_cases (s : Sheet) (c : Call) : s.after c = s ∨ (∃ stale, s.Edit stale (s.after c)) ∨
    ∃ a, s.after c = (s.value a).2 := by
  cases c with
  | set a text =>
    cases found : s.set a text with
    | ok r => exact Or.inr (Or.inl ⟨r.1, after_set found ▸ .set found⟩)
    | error e =>
      left
      rw [after, found]
  | value a => exact Or.inr (Or.inr ⟨a, rfl⟩)
  | extend rows columns => exact Or.inr (Or.inl ⟨_, .extend rows columns⟩)
  | shrink rows columns => exact Or.inr (Or.inl ⟨_, .shrink rows columns⟩)

/-- Loading sets the saved cells one by one. -/
theorem restore_induct {P : Sheet → Prop} (cells : List SavedCell)
    (step : ∀ s s' stale, ∀ c ∈ cells, s.set ⟨c.row, c.column⟩ c.formula = .ok (stale, s') →
      P s → P s') {s s' : Sheet} (hs : P s) (h : s.restore cells = .ok s') : P s' := by
  induction cells generalizing s with
  | nil =>
    injection h with h
    exact h ▸ hs
  | cons c cells ih =>
    obtain ⟨first, rest⟩ := List.forall_mem_cons.1 fun c hc s s' stale => step s s' stale c hc
    unfold restore at h
    split at h
    · cases h
    · rename_i stale s₁ found
      exact ih (fun s s' stale c hc => rest c hc s s' stale) (first _ _ _ found hs) h

/-- **Every history starts with a new sheet**: what holds of new sheets and survives every call
holds of every reachable sheet. -/
theorem Reachable.induct {P : Sheet → Prop} (new : ∀ rows columns, P (Sheet.empty rows columns))
    (step : ∀ s c, P s → P (s.after c)) {s : Sheet} (h : Reachable s) : P s := by
  induction h with
  | empty rows columns => exact new rows columns
  | load h =>
    unfold Sheet.load at h
    split at h
    · exact restore_induct _ (fun s _ _ c _ found hs => after_set found ▸ step s _ hs) (new _ _) h
    · cases h
  | after _ c ih => exact step _ c ih

/-- An edit leads from a reachable sheet to one. -/
theorem Edit.reachable {s s' : Sheet} {stale : AddressSet} (edit : s.Edit stale s')
    (h : s.Reachable) : s'.Reachable := by
  cases edit with
  | set found => exact after_set found ▸ h.after (.set _ _)
  | extend rows columns => exact h.after (.extend rows columns)
  | shrink rows columns => exact h.after (.shrink rows columns)

end Spreadsheet.Sheet
