import Spreadsheet.CommandLine.Run

/-!
# The program

The system as a host, and the entry point.
-/

namespace Spreadsheet.System

/-- The file error that a fault of the system stands for. -/
def fileError : IO.Error → FileError
  | .noFileOrDirectory _ number text | .interrupted _ number text
  | .alreadyExists _ number text | .invalidArgument _ number text
  | .permissionDenied _ number text | .resourceExhausted _ number text
  | .inappropriateType _ number text | .noSuchThing _ number text
  | .otherError number text | .resourceBusy number text | .resourceVanished number text
  | .unsupportedOperation number text | .hardwareFault number text
  | .unsatisfiedConstraints number text | .illegalOperation number text
  | .protocolError number text | .timeExpired number text => .system text number.toNat
  | .unexpectedEof => .system "Unexpected end of file" 0
  | .userError text => .system text 0

/-- The content of a file. -/
def content (path : String) : IO (Except FileError ByteArray) := do
  match ← (IO.FS.readBinFile path).toBaseIO with
  | .ok bytes => return .ok bytes
  | .error e => return .error (fileError e)

/-- The folder of the user's settings: a place of its own, or one in the user's home. -/
def settingsFolder : IO (Option String) := do
  match ← IO.getEnv "XDG_CONFIG_HOME" with
  | some path => if path.toList.head? = some '/' then return some path else inHome
  | none => inHome
where
  /-- The place in the user's home. -/
  inHome : IO (Option String) := do
    match ← IO.getEnv "HOME" with
    | some home => return if home.isEmpty then none else some (home ++ "/.config")
    | none => return none

/-- What is there and cannot be read, as a folder, is refused when it is read, so no size is asked
of it. -/
instance : Host IO where
  isThere path := do
    match ← (IO.FS.realPath path).toBaseIO with
    | .ok _ => return true
    | .error _ => return false
  size path := do
    match ← content path with
    | .ok bytes => return .ok bytes.size
    | .error _ => return .ok 0
  readText path := do
    match ← content path with
    | .error e => return .error e
    | .ok bytes =>
      match String.fromUTF8? bytes with
      | some text => return .ok text
      | none => return .error .notText
  writeText path text := do
    match ← (IO.FS.writeFile path text).toBaseIO with
    | .ok () => return .ok ()
    | .error e => return .error (fileError e)
  settingsPath := do
    return (← settingsFolder).map (· ++ "/sheets/config.toml")
  answer text := do
    let out ← IO.getStdout
    out.putStr text
    out.flush
  report text := do
    let err ← IO.getStderr
    err.putStr text

end Spreadsheet.System

/-- Runs the command with its arguments. -/
def main (args : List String) : IO UInt32 := do
  return ((← Spreadsheet.runArgs (m := IO) args).code).toUInt32
