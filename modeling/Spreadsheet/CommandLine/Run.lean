import Spreadsheet.CommandLine.Options
import Spreadsheet.Config.Load
import Spreadsheet.Sheet.Saved
import Spreadsheet.Sheet.Table

/-!
# Running a command

A command opens a sheet, makes the edits in their order, writes the sheet if it is asked to, and then
answers the value of a formula or shows the table. A formula that comes with neither a file nor an
edit is evaluated without a sheet, and then nothing is written. Whatever fails ends the command; what
was written before stays.
-/

namespace Spreadsheet

/-- How a command ends. -/
inductive Exit where
  | success
  | failure
  deriving DecidableEq

/-- The number that tells the system how a command ended. -/
def Exit.code : Exit → Nat
  | .success => 0
  | .failure => 1

/-- Why a sheet cannot be opened. -/
inductive OpenError where
  | file (e : FileError)
  | sheet (e : SheetError)
  deriving DecidableEq

/-- The message for an error. -/
def OpenError.message : OpenError → String
  | .file e => e.chain
  | .sheet e => e.message

/-- Why a command fails. -/
inductive Failure where
  | opening (path : String) (e : OpenError)
  | edit (e : SheetError)
  | saving (path : String) (e : FileError)
  | exporting (path : String) (e : FileError)
  deriving DecidableEq

/-- The message for a failure. -/
def Failure.message : Failure → String
  | .opening path e => "Failed to load " ++ path ++ ": " ++ e.message
  | .edit e => e.message
  | .saving path e => "Failed to save " ++ path ++ ": " ++ e.chain
  | .exporting path e => "Failed to export " ++ path ++ ": " ++ e.chain

/-! ## Formulas -/

/-- The expression of a formula; the equals sign in front may be left out. -/
def commandExpr (formula : String) : Expr :=
  Expr.ofText (if formula.toList.head? = some '=' then formula else "=" ++ formula)

/-- The value of an expression in a sheet. The addresses that it reads are queried row by row. -/
def Sheet.evaluate (s : Sheet) (e : Expr) : Value × Sheet :=
  let addresses := e.references.toList
  let (values, s) := queryAll value s addresses
  let known : AddressMap Value := Std.ExtTreeMap.ofList (addresses.zip values)
  (e.eval fun a => known[a]?.getD Value.empty, s)

/-! ## Steps of a command -/

section Steps

variable {m : Type → Type} [Monad m] [Host m]

/-- The greatest number of bytes of a saved sheet. -/
def sheetSizeLimit : Nat := 67108864

/-- The sheet in a file that is there. -/
def openFile (path : String) : m (Except OpenError Sheet) := do
  match ← Host.size path with
  | .error e => return .error (.file e)
  | .ok size =>
    if sheetSizeLimit < size then
      return .error (.file (.tooLarge path size sheetSizeLimit))
    match ← Host.readText path with
    | .error e => return .error (.file e)
    | .ok text =>
      match Sheet.load text with
      | .ok s => return .ok s
      | .error e => return .error (.sheet e)

/-- The sheet in the file that is named, or a new one if no file is named or nothing is there. -/
def openSheet (file : Option String) (config : Config) : m (Except Failure Sheet) := do
  let new := Sheet.empty config.rows config.columns
  match file with
  | none => return .ok new
  | some path =>
    if ← Host.isThere path then
      match ← openFile path with
      | .ok s => return .ok s
      | .error e => return .error (.opening path e)
    else return .ok new

/-- The report of the addresses whose values are out of date. -/
def staleReport (stale : AddressSet) : String :=
  "Invalidated: " ++ ", ".intercalate (stale.toList.map Address.name) ++ "\n"

/-- Makes some edits in their order. -/
def makeEdits (verbose : Bool) (s : Sheet) : List Edit → m (Except Failure Sheet)
  | [] => return .ok s
  | e :: edits => do
    match e.apply s with
    | .error e => return .error (.edit e)
    | .ok (stale, s) =>
      if verbose then Host.report (staleReport stale)
      makeEdits verbose s edits

/-- Saves a sheet if a path is given. -/
def saveSheet (path : Option String) (s : Sheet) : m (Except Failure Unit) := do
  match path with
  | none => return .ok ()
  | some path =>
    match ← Host.writeText path s.save with
    | .error e => return .error (.saving path e)
    | .ok () =>
      Host.report ("Saved to " ++ path ++ "\n")
      return .ok ()

/-- Answers a value; an error value is a failure. -/
def answerValue (v : Value) : m Exit := do
  Host.answer (v.display ++ "\n")
  return if v.isError then .failure else .success

/-- Answers the table of a sheet, or exports it if a path is given. -/
def showTable (path : Option String) (s : Sheet) : m (Except Failure Exit) := do
  match path with
  | none =>
    Host.answer s.table.1
    return .ok .success
  | some path =>
    match ← Host.writeText path s.table.1 with
    | .error e => return .error (.exporting path e)
    | .ok () =>
      Host.report ("Exported to " ++ path ++ "\n")
      return .ok .success

/-- What a command does with its sheet, from the edits on. -/
def useSheet (o : Options) (s : Sheet) : m (Except Failure Exit) := do
  match ← makeEdits o.verbose s o.edits with
  | .error e => return .error e
  | .ok s =>
    match ← saveSheet o.write s with
    | .error e => return .error e
    | .ok () =>
      match o.command with
      | some formula => return .ok (← answerValue (s.evaluate (commandExpr formula)).1)
      | none => showTable o.output s

/-- Loads the settings. What is wrong with them is reported. -/
def loadConfig (named : Option String) : m Config := do
  match ← Config.load named with
  | .ok config => return config
  | .error warning =>
    Host.report ("Warning: " ++ warning.message ++ "\n")
    return {}

/-- The formula of a command that needs no sheet. -/
def Options.loneFormula? (o : Options) : Option String :=
  if o.file.isNone && o.edits.isEmpty then o.command else none

/-- Does what is asked for. -/
def runOptions (o : Options) : m (Except Failure Exit) := do
  let config ← loadConfig o.config
  match o.loneFormula? with
  | some formula => return .ok (← answerValue (commandExpr formula).evalDetached)
  | none =>
    match ← openSheet o.file config with
    | .error e => return .error e
    | .ok s => useSheet o s

/-- Runs a command with some arguments. -/
def runArgs (args : List String) : m Exit := do
  match Options.ofArgs args with
  | .error e =>
    Host.report ("Error: " ++ e.message ++ "\n" ++ Options.usage)
    return .failure
  | .ok o =>
    if o.help then
      Host.report Options.usage
      return .success
    match ← runOptions o with
    | .ok exit => return exit
    | .error e =>
      Host.report ("Error: " ++ e.message ++ "\n")
      return .failure

end Steps

end Spreadsheet
