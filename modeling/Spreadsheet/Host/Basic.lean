/-!
# Hosts

A host is what a command runs on: it reads and writes files, keeps the place of the user's settings
and shows two streams of text, the answer and the reports. A command says what it does in terms of a
host, so that it means the same on a real system and on a folder in memory.
-/

namespace Spreadsheet

/-- Why a file cannot be read or written. -/
inductive FileError where
  /-- The system refuses, with a text and a number of its own. -/
  | system (text : String) (number : Nat)
  /-- The content is not a UTF-8 text. -/
  | notText
  /-- The content is larger than a sheet may be. -/
  | tooLarge (path : String) (size limit : Nat)
  deriving DecidableEq

namespace FileError

/-- Nothing has this name. -/
def notFound : FileError := .system "No such file or directory" 2

/-- The file may not be read or not be written. -/
def notPermitted : FileError := .system "Permission denied" 13

/-- A part of the path that has to be a folder is a file. -/
def notAFolder : FileError := .system "Not a directory" 20

/-- A file is wanted and a folder has its name. -/
def isAFolder : FileError := .system "Is a directory" 21

/-- A device has no space for a text. -/
def noSpace : FileError := .system "No space left on device" 28

/-- The path or a part of it is longer than a name may be. -/
def nameTooLong : FileError := .system "File name too long" 36

/-- The message for an error. -/
def message : FileError → String
  | .system text number => text ++ " (os error " ++ toString number ++ ")"
  | .notText => "stream did not contain valid UTF-8"
  | .tooLarge path size limit =>
    "Refusing to read " ++ path ++ ": sheet file too large (" ++ toString size ++ " bytes, max " ++
      toString limit ++ ")"

/-- The message that names an error and its cause, which for a file is the same. -/
def chain (e : FileError) : String :=
  "IO error: " ++ e.message ++ ": " ++ e.message

end FileError

/-- The effects of a command. -/
class Host (m : Type → Type) where
  /-- Whether a path names something, which need not be readable. -/
  isThere : String → m Bool
  /-- The number of bytes of what a path names. -/
  size : String → m (Except FileError Nat)
  /-- The text of a file. -/
  readText : String → m (Except FileError String)
  /-- Makes or replaces a file. -/
  writeText : String → String → m (Except FileError Unit)
  /-- The path of the user's settings, if there is a place for them. -/
  settingsPath : m (Option String)
  /-- Adds to the answer. -/
  answer : String → m Unit
  /-- Adds to the reports. -/
  report : String → m Unit

end Spreadsheet
