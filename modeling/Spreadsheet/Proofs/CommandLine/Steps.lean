import Spreadsheet.Host.Session
import Spreadsheet.Proofs.Save.Unqueried

/-!
# Commands in a session

The steps of a command up to its edited sheet change nothing in a session but the reports
(`editedSheet_quiet`), and the sheet was not queried (`Sheet.Unqueried`). What the command saves or
answers comes after them (`runOptions_apply`).
-/

namespace Spreadsheet

open Sheet Session

variable {σ : Session} {o : Options} {s t : Sheet}

/-! ## Steps in a session -/

namespace Session

variable {α β : Type}

theorem bind_apply (x : StateM Session α) (f : α → StateM Session β) (σ : Session) :
    (x >>= f) σ = f (x σ).1 (x σ).2 := rfl

theorem pure_apply (a : α) (σ : Session) : (pure a : StateM Session α) σ = (a, σ) := rfl

theorem isThere_apply (path : String) (σ : Session) :
    (Host.isThere path : StateM Session _) σ = (σ.files.isThere path, σ) := rfl

theorem size_apply (path : String) (σ : Session) :
    (Host.size path : StateM Session _) σ = (σ.files.size path, σ) := rfl

theorem readText_apply (path : String) (σ : Session) :
    (Host.readText path : StateM Session _) σ = (σ.files.readText path, σ) := rfl

end Session

/-! ## Steps that only read -/

/-- The step leaves a session as it is. -/
def Session.Reads {α : Type} (x : StateM Session α) : Prop := ∀ σ, (x σ).2 = σ

namespace Session.Reads

variable {α β : Type}

theorem pure (a : α) : Reads (Pure.pure a) := fun _ => rfl

theorem bind {x : StateM Session α} {f : α → StateM Session β} (hx : Reads x)
    (hf : ∀ a, Reads (f a)) : Reads (x >>= f) := by
  intro σ
  change (f (x σ).1 (x σ).2).2 = σ
  rw [hx, hf]

theorem isThere (path : String) : Reads (Host.isThere path) := fun _ => rfl

theorem size (path : String) : Reads (Host.size path) := fun _ => rfl

theorem readText (path : String) : Reads (Host.readText path) := fun _ => rfl

theorem readConfig (path : String) : Reads (Config.readFile path) := by
  refine bind (size path) fun r => ?_
  cases r with
  | error e => exact pure _
  | ok n =>
    dsimp only
    split
    · exact pure _
    · refine bind (readText path) fun r => ?_
      cases r with
      | error e => exact pure _
      | ok text =>
        dsimp only
        split
        · exact pure _
        · exact pure _

theorem loadConfig (named : Option String) : Reads (Config.load named) := by
  have of_path (path : String) {x : StateM Session (Except Config.Warning Config)} (hx : Reads x) :
      Reads (Host.isThere path >>= fun there => if there = true then Config.readFile path else x) := by
    refine bind (isThere path) fun there => ?_
    split
    · exact readConfig path
    · exact hx
  cases named with
  | some path => exact of_path path (pure _)
  | none =>
    refine bind (fun _ => rfl) fun place => ?_
    cases place with
    | none => exact pure _
    | some path => exact of_path path (pure _)

theorem openFile (path : String) : Reads (openFile path) := by
  refine bind (size path) fun r => ?_
  cases r with
  | error e => exact pure _
  | ok n =>
    dsimp only
    split
    · exact pure _
    · refine bind (readText path) fun r => ?_
      cases r with
      | error e => exact pure _
      | ok text =>
        dsimp only
        split
        · exact pure _
        · exact pure _

theorem openSheet (file : Option String) (config : Config) : Reads (openSheet file config) := by
  cases file with
  | none => exact pure _
  | some path =>
    refine bind (isThere path) fun there => ?_
    split
    · refine bind (openFile path) fun r => ?_
      cases r with
      | error e => exact pure _
      | ok s => exact pure _
    · exact pure _

theorem makeEdits (s : Sheet) (edits : List Edit) : Reads (makeEdits false s edits) := by
  induction edits generalizing s with
  | nil => exact pure _
  | cons e edits ih =>
    unfold Spreadsheet.makeEdits
    split
    · exact pure _
    · exact ih _

end Session.Reads

/-! ## The sheet of a command -/

theorem Edit.of_apply {e : Edit} {stale : AddressSet} (h : e.apply s = .ok (stale, t)) :
    s.Edit stale t := by
  cases e with
  | set a text => exact .set h
  | extend rows columns =>
    obtain ⟨rfl, rfl⟩ := Prod.mk.inj (Except.ok.inj h)
    exact .extend rows columns
  | shrink rows columns =>
    obtain ⟨rfl, rfl⟩ := Prod.mk.inj (Except.ok.inj h)
    exact .shrink rows columns

/-- The sheet was made by calls, and none of them was a query. -/
structure Sheet.Unqueried (s : Sheet) : Prop where
  reachable : s.Reachable
  fresh : s.Fresh

/-- A sheet file is opened if it is not too large and its text is that of a sheet. -/
theorem openFile_eq_ok_iff {path : String} :
    ((openFile path : StateM Session _) σ).1 = .ok s ↔
      ∃ n text, σ.files.size path = .ok n ∧ n ≤ sheetSizeLimit ∧
        σ.files.readText path = .ok text ∧ Sheet.load text = .ok s := by
  rw [openFile, bind_apply, size_apply]
  cases size : σ.files.size path with
  | error e => simp [pure_apply]
  | ok n =>
    dsimp only
    by_cases large : sheetSizeLimit < n
    · rw [if_pos large, pure_apply]
      simp [Nat.not_le.2 large]
    rw [if_neg large, bind_apply, readText_apply]
    cases read : σ.files.readText path with
    | error e => simp [pure_apply]
    | ok text =>
      dsimp only
      cases loaded : Sheet.load text with
      | error e => simp [pure_apply, loaded]
      | ok s' => simp [pure_apply, loaded, Nat.not_lt.1 large]

/-- A sheet is opened from the file that is named, and else it is a new one. -/
theorem openSheet_some_eq_ok_iff {path : String} {config : Config} :
    ((openSheet (some path) config : StateM Session _) σ).1 = .ok s ↔
      σ.files.isThere path = false ∧ s = Sheet.empty config.rows config.columns ∨
      σ.files.isThere path = true ∧ ((openFile path : StateM Session _) σ).1 = .ok s := by
  rw [openSheet, bind_apply, isThere_apply]
  cases there : σ.files.isThere path with
  | false => simp [pure_apply, eq_comm]
  | true =>
    dsimp only
    rw [if_pos rfl, bind_apply]
    cases opened : ((openFile path : StateM Session _) σ).1 with
    | error e => simp [pure_apply]
    | ok s' => simp [pure_apply]

theorem unqueried_of_openSheet {file : Option String} {config : Config}
    (h : ((openSheet file config : StateM Session _) σ).1 = .ok s) : s.Unqueried := by
  cases file with
  | none => exact Except.ok.inj h ▸ ⟨.empty _ _, fresh_empty _ _⟩
  | some path =>
    rcases openSheet_some_eq_ok_iff.1 h with ⟨-, rfl⟩ | ⟨-, opened⟩
    · exact ⟨.empty _ _, fresh_empty _ _⟩
    · obtain ⟨-, text, -, -, -, loaded⟩ := openFile_eq_ok_iff.1 opened
      exact ⟨.load loaded, .of_load loaded⟩

theorem unqueried_of_makeEdits {edits : List Edit} (hs : s.Unqueried)
    (h : ((makeEdits false s edits : StateM Session _) σ).1 = .ok t) : t.Unqueried := by
  induction edits generalizing s with
  | nil => exact Except.ok.inj h ▸ hs
  | cons e edits ih =>
    unfold makeEdits at h
    cases applied : e.apply s with
    | error e =>
      rw [applied] at h
      cases h
    | ok r =>
      obtain ⟨stale, s'⟩ := r
      have edit := Edit.of_apply applied
      rw [applied] at h
      exact ih ⟨edit.reachable hs.reachable, hs.fresh.edit hs.reachable.sound edit⟩ h

/-- Opens the sheet of a command and makes its edits. -/
def editedSheet (o : Options) : StateM Session (Except Failure Sheet) := do
  let config ← loadConfig o.config
  match ← openSheet o.file config with
  | .error e => return .error e
  | .ok s => makeEdits o.verbose s o.edits

/-- What a command does with its edited sheet. -/
def concludeWith (o : Options) (s : Sheet) : StateM Session (Except Failure Exit) := do
  match ← saveSheet o.write s with
  | .error e => return .error e
  | .ok () =>
    match o.command with
    | some formula => return .ok (← answerValue (s.evaluate (commandExpr formula)).1)
    | none => showTable o.output s

/-- A command that needs a sheet gets it edited before it does anything else with it. -/
theorem runOptions_apply (sheet : o.loneFormula? = none) (σ : Session) :
    (runOptions o : StateM Session _) σ = match editedSheet o σ with
      | (.error e, σ') => (.error e, σ')
      | (.ok s, σ') => concludeWith o s σ' := by
  unfold runOptions editedSheet
  rw [sheet, bind_apply, bind_apply]
  dsimp only
  rw [bind_apply, bind_apply]
  generalize (openSheet o.file _ : StateM Session _) _ = opened
  obtain ⟨opened, σ'⟩ := opened
  cases opened with
  | error e => rfl
  | ok s =>
    dsimp only
    rw [useSheet, bind_apply]
    generalize (makeEdits o.verbose s o.edits : StateM Session _) σ' = made
    obtain ⟨made, σ''⟩ := made
    cases made with
    | error e => rfl
    | ok t => rfl

/-- The settings change nothing but the reports. -/
theorem loadConfig_quiet (named : Option String) (σ : Session) :
    ((loadConfig named : StateM Session _) σ).2.files = σ.files ∧
      ((loadConfig named : StateM Session _) σ).2.answered = σ.answered := by
  rw [loadConfig, bind_apply, Session.Reads.loadConfig]
  cases ((Config.load named : StateM Session _) σ).1 with
  | error warning => exact ⟨rfl, rfl⟩
  | ok config => exact ⟨rfl, rfl⟩

/-- Neither does a sheet change them when it is opened and edited, and it is not queried. -/
theorem editedSheet_quiet (o : Options) (silent : o.verbose = false) (σ : Session) :
    (editedSheet o σ).2.files = σ.files ∧ (editedSheet o σ).2.answered = σ.answered ∧
      ∀ s, (editedSheet o σ).1 = .ok s → s.Unqueried := by
  obtain ⟨files, answered⟩ := loadConfig_quiet o.config σ
  rw [editedSheet, bind_apply, bind_apply, Session.Reads.openSheet]
  cases opened : ((openSheet o.file _ : StateM Session _) _).1 with
  | error e => exact ⟨files, answered, fun s h => nomatch h⟩
  | ok s =>
    dsimp only
    rw [silent, Session.Reads.makeEdits]
    exact ⟨files, answered, fun t h => unqueried_of_makeEdits (unqueried_of_openSheet opened) h⟩

/-- A sheet file without edits gives the sheet that was saved in it. -/
theorem editedSheet_of_load {path text : String} {n : Nat} (file : o.file = some path)
    (edits : o.edits = []) (there : σ.files.isThere path = true) (size : σ.files.size path = .ok n)
    (small : n ≤ sheetSizeLimit) (read : σ.files.readText path = .ok text)
    (loaded : Sheet.load text = .ok s) : (editedSheet o σ).1 = .ok s := by
  obtain ⟨files, -⟩ := loadConfig_quiet o.config σ
  have opened : ((openSheet o.file ((loadConfig o.config : StateM Session _) σ).1 :
      StateM Session _) ((loadConfig o.config : StateM Session _) σ).2).1 = .ok s := by
    rw [file, openSheet_some_eq_ok_iff, openFile_eq_ok_iff, files]
    exact Or.inr ⟨there, n, text, size, small, read, loaded⟩
  rw [editedSheet, bind_apply, bind_apply, opened, edits]
  rfl

end Spreadsheet
