import Spreadsheet.Host.FileTree

/-!
# Sessions

A session is a host in memory: a file tree, the place of the user's settings, and the texts that
were answered and reported.
-/

namespace Spreadsheet

/-- The state of a session. -/
structure Session where
  files : FileTree
  settingsPath : Option String
  answered : String
  reported : String

namespace Session

/-- A session before anything was run. -/
def start (files : FileTree) (settingsPath : Option String) : Session :=
  { files, settingsPath, answered := "", reported := "" }

/-- Adds to the answer. -/
def answer (s : Session) (text : String) : Session :=
  { s with answered := s.answered ++ text }

/-- Adds to the reports. -/
def report (s : Session) (text : String) : Session :=
  { s with reported := s.reported ++ text }

/-- Gives a text to a device. -/
def writeDevice (s : Session) (text : String) : Device → Except FileError Unit × Session
  | .null => (.ok (), s)
  | .full => (.error .noSpace, s)
  | .answer => (.ok (), s.answer text)
  | .report => (.ok (), s.report text)

/-- Makes or replaces a file, or gives the text to a device; if that fails the session stays as it
is. -/
def writeText (s : Session) (path text : String) : Except FileError Unit × Session :=
  match s.files.target path with
  | .error e => (.error e, s)
  | .ok names =>
    match s.files.find? names with
    | some (.device d) => s.writeDevice text d
    | _ => (.ok (), { s with files := s.files.put names (.file text.toUTF8) })

end Session

instance : Host (StateM Session) where
  isThere path s := (s.files.isThere path, s)
  size path s := (s.files.size path, s)
  readText path s := (s.files.readText path, s)
  writeText path text s := s.writeText path text
  settingsPath s := (s.settingsPath, s)
  answer text s := ((), s.answer text)
  report text s := ((), s.report text)

end Spreadsheet
