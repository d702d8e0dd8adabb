import Spreadsheet.Config.Reader
import Spreadsheet.Host.Basic

/-!
# Loading settings

Settings come from a file that was named, or else from the user's place for them. A fault never
stops a command: the usual settings are used instead, and what is wrong is a warning. It is no fault
if nothing is at the user's place.
-/

namespace Spreadsheet.Config

/-- The greatest number of bytes of a settings file. -/
def sizeLimit : Nat := 1048576

/-- What can be wrong with a settings file. -/
inductive Warning where
  | notFound (path : String)
  | tooLarge (path : String) (size : Nat)
  | unmeasured (path : String) (e : FileError)
  | unreadable (path : String) (e : FileError)
  | malformed (path : String)
  deriving DecidableEq

/-- The text of a warning. -/
def Warning.message : Warning → String
  | .notFound path => "Config file not found: " ++ path
  | .tooLarge path size =>
    "Refusing to read " ++ path ++ ": file too large (" ++ toString size ++ " bytes, max " ++
      toString sizeLimit ++ ")"
  | .unmeasured path e => "Failed to read metadata for " ++ path ++ ": " ++ e.message
  | .unreadable path e => "Failed to read " ++ path ++ ": " ++ e.message
  | .malformed path => "Failed to parse " ++ path

variable {m : Type → Type} [Monad m] [Host m]

/-- The settings in a file that is there. -/
def readFile (path : String) : m (Except Warning Config) := do
  match ← Host.size path with
  | .error e => return .error (.unmeasured path e)
  | .ok size =>
    if sizeLimit < size then
      return .error (.tooLarge path size)
    match ← Host.readText path with
    | .error e => return .error (.unreadable path e)
    | .ok text =>
      match ofText? text with
      | some config => return .ok config
      | none => return .error (.malformed path)

/-- The settings in the named file or, if none is named, in the user's file. -/
def load (named : Option String) : m (Except Warning Config) := do
  match named with
  | some path =>
    if ← Host.isThere path then readFile path else return .error (.notFound path)
  | none =>
    match ← Host.settingsPath with
    | none => return .ok {}
    | some path =>
      if ← Host.isThere path then readFile path else return .ok {}

end Spreadsheet.Config
