import Spreadsheet.Proofs.CommandLine.Arguments
import Spreadsheet.Proofs.CommandLine.Steps
import Spreadsheet.Proofs.Host.Files

/-!
# Saving and reopening

A command that opens a sheet, edits it and answers can be cut in two: the first part saves the sheet,
the second part opens what was saved and answers. Main statement: both ways answer the same and end
the same (`Session.shown_reopened`). A command queries its sheet only after all edits, so the sheet
that it saves was never queried, and neither was the one that is opened.
-/

namespace Spreadsheet

open Sheet Session

variable {files : FileTree} {settingsPath : Option String} {σ : Session} {o : Options} {s t : Sheet}

/-! ## Commands in a new session -/

/-- How a command ends in a new session, and the session then. -/
def Session.run (files : FileTree) (settingsPath : Option String) (args : List String) :
    Exit × Session :=
  (runArgs args : StateM Session Exit) (.start files settingsPath)

/-- What is seen of a command: how it ends and what it answers. -/
def Session.shown (files : FileTree) (settingsPath : Option String) (args : List String) :
    Exit × String :=
  ((run files settingsPath args).1, (run files settingsPath args).2.answered)

/-- How a command ends and what it answers, if it has come to a sheet and only answers: the value of
a formula or the table. -/
def Sheet.answer (s : Sheet) : Option String → Exit × String
  | some formula =>
    let v := (s.evaluate (commandExpr formula)).1
    (if v.isError then .failure else .success, v.display ++ "\n")
  | none => (.success, s.table.1)

/-- Sheets that concur give the same answer. -/
theorem Sheet.answer_congr (h : s.Concurs t) (command : Option String) :
    t.answer command = s.answer command := by
  cases command with
  | some formula => simp only [answer, evaluate_congr h]
  | none => simp only [answer, h.table]

section

variable {args : List String} {file command : Option String} {edits : List Edit}

/-- A command that has read its options does what they ask for. -/
theorem Session.run_apply (read : Options.ofArgs args = .ok o) (no_help : o.help = false) :
    run files settingsPath args =
      match (runOptions o : StateM Session _) (.start files settingsPath) with
      | (.ok exit, σ) => (exit, σ)
      | (.error e, σ) => (.failure, σ.report ("Error: " ++ e.message ++ "\n")) := by
  rw [run, runArgs, read]
  dsimp only
  rw [no_help, if_neg Bool.false_ne_true, bind_apply]
  generalize (runOptions o : StateM Session _) (.start files settingsPath) = done
  obtain ⟨result, σ⟩ := done
  cases result with
  | ok exit => rfl
  | error e => rfl

/-- A command that ends well has opened its sheet and made its edits. -/
theorem Session.exists_sheet_of_success (read : Options.ofArgs args = .ok o)
    (no_help : o.help = false) (sheet : o.loneFormula? = none)
    (success : (run files settingsPath args).1 = .success) :
    ∃ s, (editedSheet o (.start files settingsPath)).1 = .ok s := by
  rw [run_apply read no_help, runOptions_apply sheet] at success
  generalize editedSheet o (.start files settingsPath) = edited at success
  obtain ⟨result, σ⟩ := edited
  cases result with
  | error e => cases success
  | ok s => exact ⟨s, rfl⟩

/-- A command that names a file or makes an edit needs a sheet. -/
theorem Options.loneFormula?_eq_none (sheet : o.file.isSome = true ∨ o.edits ≠ []) :
    o.loneFormula? = none := by
  refine if_neg fun lone => ?_
  rw [Bool.and_eq_true, Option.isNone_iff_eq_none, List.isEmpty_iff] at lone
  rcases sheet with named | made
  · rw [lone.1] at named
    cases named
  · exact made lone.2

/-- A command that neither saves nor exports answers, and does nothing else. -/
theorem concludeWith_answer (file command : Option String) (edits : List Edit) (s : Sheet)
    (σ : Session) : concludeWith { file, command, edits } s σ =
      (.ok (s.answer command).1, Session.answer σ (s.answer command).2) := by
  cases command with
  | some formula => rfl
  | none => rfl

/-- **What a command shows** that only answers is the answer of its sheet. -/
theorem Session.shown_eq (read : Options.ofArgs args = .ok { file, command, edits })
    (sheet : file.isSome = true ∨ edits ≠ [])
    (edited : (editedSheet { file, edits } (.start files settingsPath)).1 = .ok s) :
    shown files settingsPath args = s.answer command := by
  obtain ⟨-, answered, -⟩ := editedSheet_quiet { file, edits } rfl (.start files settingsPath)
  have same : editedSheet { file, command, edits } (.start files settingsPath) =
      editedSheet { file, edits } (.start files settingsPath) := rfl
  rw [shown, run_apply read rfl, runOptions_apply (Options.loneFormula?_eq_none sheet), same]
  generalize editedSheet { file, edits } (.start files settingsPath) = done at *
  obtain ⟨result, σ⟩ := done
  obtain rfl : result = .ok s := edited
  have blank : σ.answered = "" := answered
  dsimp only
  rw [concludeWith_answer]
  simp [Session.answer, blank]

/-- **What a command leaves** that saves its sheet: the file, in the place of what was there. -/
theorem Session.run_save {out : String} {names : List String}
    (read : Options.ofArgs args = .ok { file, edits, write := some out })
    (sheet : file.isSome = true ∨ edits ≠ [])
    (edited : (editedSheet { file, edits } (.start files settingsPath)).1 = .ok s)
    (target : files.target out = .ok names) (kept : ∀ d, files.find? names ≠ some (.device d)) :
    (run files settingsPath args).1 = .success ∧
      (run files settingsPath args).2.files = files.put names (.file s.save.toUTF8) := by
  obtain ⟨same_files, -⟩ := editedSheet_quiet { file, edits } rfl (.start files settingsPath)
  have same : editedSheet { file, edits, write := some out } (.start files settingsPath) =
      editedSheet { file, edits } (.start files settingsPath) := rfl
  rw [run_apply read rfl, runOptions_apply (Options.loneFormula?_eq_none sheet), same]
  generalize editedSheet { file, edits } (.start files settingsPath) = done at *
  obtain ⟨result, σ⟩ := done
  obtain rfl : result = .ok s := edited
  have here : σ.files = files := same_files
  have written : (Host.writeText out s.save : StateM Session _) σ =
      (.ok (), { σ with files := files.put names (.file s.save.toUTF8) }) := by
    change σ.writeText out s.save = _
    rw [writeText, here, target]
    dsimp only
    split
    · rename_i d found
      exact absurd found (kept d)
    · rfl
  dsimp only
  rw [concludeWith, saveSheet, bind_apply, bind_apply, written]
  exact ⟨rfl, rfl⟩

end

/-! ## Saving and reopening -/

/-- **A saved sheet that was not queried answers the same** to a command that opens its file. -/
theorem Session.shown_saved {out : String} {names rest : List String} (command : Option String)
    (unqueried : s.Unqueried) (target : files.target out = .ok names)
    (small : s.save.toUTF8.size ≤ sheetSizeLimit) (plain : out.toList.head? ≠ some '-')
    (asked : Options.readArgs { file := some out } rest = .ok { file := some out, command }) :
    shown (files.put names (.file s.save.toUTF8)) settingsPath (out :: rest) = s.answer command := by
  obtain ⟨t, loaded, concurs⟩ := unqueried.reachable.load_fresh unqueried.fresh
  have read : Options.ofArgs (out :: rest) = .ok { file := some out, command } := by
    rw [← asked]
    have named : ∀ path ∈ some out, path.toList.head? ≠ some '-' := fun path h =>
      Option.some.inj h ▸ plain
    exact Options.ofArgs_path named rest
  have edited : (editedSheet { file := some out }
      (.start (files.put names (.file s.save.toUTF8)) settingsPath)).1 = .ok t :=
    editedSheet_of_load rfl rfl (FileTree.isThere_put target) (FileTree.size_put target) small
      (FileTree.readText_put target) loaded
  rw [shown_eq read (Or.inl rfl) edited, Sheet.answer_congr concurs]

/-- **Saving and reopening makes no difference.** If a command opens the sheet of a file, or a new one,
and makes edits that all succeed, then it can save the sheet to a path where a file can be written,
and another command that opens what was saved ends in the same way and answers the same as the first
one would: the value of a formula, also of one that reaches a cycle, or the table. -/
theorem Session.shown_reopened {file : Option String} {args : List String} {out : String}
    (named : ∀ path ∈ file, path.toList.head? ≠ some '-') (edits : EditArgs args)
    (sheet : file.isSome = true ∨ args ≠ [])
    (success : (run files settingsPath (file.toList ++ args)).1 = .success)
    (plain : out.toList.head? ≠ some '-') (writable : files.Writable out)
    (small : ∀ n, (run files settingsPath (file.toList ++ args ++ ["-w", out])).2.files.size out =
      .ok n → n ≤ sheetSizeLimit) :
    let saved := run files settingsPath (file.toList ++ args ++ ["-w", out])
    saved.1 = .success ∧
      (∀ formula, shown saved.2.files settingsPath [out, "-c", formula] =
        shown files settingsPath (file.toList ++ args ++ ["-c", formula])) ∧
      shown saved.2.files settingsPath [out] = shown files settingsPath (file.toList ++ args) := by
  intro saved
  rcases Options.ofArgs_edits named edits with ⟨edits, some_edit, read⟩ | ⟨e, refused⟩
  swap
  · -- a command with wrong arguments fails
    have refused : Options.ofArgs (file.toList ++ args) = .error e := by simpa using refused []
    rw [run, runArgs, refused] at success
    cases success
  have read_all : Options.ofArgs (file.toList ++ args) = .ok { file, edits } := by
    rw [← List.append_nil (file.toList ++ args), read]
    rfl
  replace sheet : file.isSome = true ∨ edits ≠ [] := sheet.imp_right some_edit
  obtain ⟨s, edited⟩ :=
    exists_sheet_of_success read_all rfl (Options.loneFormula?_eq_none sheet) success
  have unqueried : s.Unqueried := (editedSheet_quiet { file, edits } rfl _).2.2 s edited
  obtain ⟨names, target, kept⟩ := writable
  obtain ⟨ends, left⟩ := run_save (read ["-w", out]) sheet edited target kept
  have size : s.save.toUTF8.size ≤ sheetSizeLimit := by
    refine small _ ?_
    rw [left, FileTree.size_put target]
  refine ⟨ends, fun formula => ?_, ?_⟩
  · rw [left, shown_saved (some formula) unqueried target size plain rfl,
      shown_eq (read _) sheet edited]
  · rw [left, shown_saved none unqueried target size plain rfl,
      shown_eq read_all sheet edited]

/-- Two cells that read each other are saved and opened again. -/
theorem Session.shown_reopened_cycle :
    let args := ["-s", "A1==B1", "-s", "B1==A1"]
    let saved := run ⟨[], []⟩ none (args ++ ["-w", "o"])
    saved.1 = .success ∧
      shown saved.2.files none ["o", "-c", "A1"] = shown ⟨[], []⟩ none (args ++ ["-c", "A1"]) ∧
      shown saved.2.files none ["o"] = shown ⟨[], []⟩ none args := by
  intro args saved
  have read : Options.ofArgs args = .ok { edits := [.set ⟨0, 0⟩ "=B1", .set ⟨0, 1⟩ "=A1"] } := rfl
  have read_saved : Options.ofArgs (args ++ ["-w", "o"]) =
      .ok { edits := [.set ⟨0, 0⟩ "=B1", .set ⟨0, 1⟩ "=A1"], write := some "o" } := rfl
  have edited : (editedSheet { edits := [.set ⟨0, 0⟩ "=B1", .set ⟨0, 1⟩ "=A1"] }
      (.start ⟨[], []⟩ none)).1.map Sheet.saved =
      .ok ⟨8, 3, [⟨0, 0, "=B1"⟩, ⟨0, 1, "=A1"⟩]⟩ := by
    cbv
  cases found : (editedSheet { edits := [.set ⟨0, 0⟩ "=B1", .set ⟨0, 1⟩ "=A1"] }
      (.start ⟨[], []⟩ none)).1 with
  | error e =>
    rw [found] at edited
    cases edited
  | ok s =>
    rw [found] at edited
    have some_edit : ∀ {e : Edit} {edits}, (none : Option String).isSome = true ∨ e :: edits ≠ [] :=
      Or.inr (List.cons_ne_nil _ _)
    have target : (⟨[], []⟩ : FileTree).target "o" = .ok ["o"] := rfl
    have no_device : ∀ d, (⟨[], []⟩ : FileTree).find? ["o"] ≠ some (.device d) := by
      intro d
      have absent : (⟨[], []⟩ : FileTree).find? ["o"] = none := rfl
      rw [absent]
      simp
    have success : (shown ⟨[], []⟩ none args).1 = .success := by
      rw [shown_eq read some_edit found]
      rfl
    have small : ∀ n, saved.2.files.size "o" = .ok n → n ≤ sheetSizeLimit := by
      intro n size
      obtain ⟨-, left⟩ := run_save read_saved some_edit found target no_device
      have text : s.saved = ⟨8, 3, [⟨0, 0, "=B1"⟩, ⟨0, 1, "=A1"⟩]⟩ := Except.ok.inj edited
      rw [left, FileTree.size_put target] at size
      rw [← Except.ok.inj size, Sheet.save, text]
      decide +kernel
    have edits : EditArgs args := .cons rfl .set (.cons rfl .set .nil)
    have named : ∀ path ∈ (none : Option String), path.toList.head? ≠ some '-' := by simp
    obtain ⟨ends, values, table⟩ := shown_reopened named edits
      (Or.inr (List.cons_ne_nil _ _)) success (by decide) ⟨["o"], target, no_device⟩ small
    exact ⟨ends, values "A1", table⟩

end Spreadsheet
