import Spreadsheet.Host.Basic
import Spreadsheet.Text.Split

/-!
# File trees in memory

A file tree holds folders, files and devices, each at the list of names that leads to it from the
root, and one of its folders is the one to work in. A path is followed name by name, from the root
if it starts with a slash and from the working folder if not: empty names and `.` stay, `..` goes
back, and every name but the last has to be that of a folder. Main statement: what was put at a
list of names is found there.
-/

namespace Spreadsheet

/-- What takes a text away instead of keeping it. A device reads as an empty text. -/
inductive Device where
  /-- Drops every text. -/
  | null
  /-- Has no space for a text. -/
  | full
  /-- Adds to the answer. -/
  | answer
  /-- Adds to the reports. -/
  | report
  deriving DecidableEq

/-- What the system lets a command do with a file. -/
inductive Access where
  /-- Reading and writing it. -/
  | all
  /-- Reading it. -/
  | reading
  /-- Nothing, though the file is seen. -/
  | nothing
  deriving DecidableEq

/-- What a path can name. -/
inductive FileItem where
  | folder
  | file (content : ByteArray) (access : Access := .all)
  | device (d : Device)

/-- Why no text can be written to what is there, if there is a reason. -/
def FileItem.refusal? : FileItem → Option FileError
  | .folder => some .isAFolder
  | .file _ access => if access = .all then none else some .notPermitted
  | .device _ => none

/-- Folders, files and devices. Relative paths start in the folder at `here`. -/
structure FileTree where
  here : List String
  items : List (List String × FileItem)

namespace FileTree

/-- What is at a list of names. A folder is there if it was made, if something is in it or if it
leads to the working folder. -/
def find? (t : FileTree) (names : List String) : Option FileItem :=
  match t.items.lookup names with
  | some item => some item
  | none =>
    if names.isPrefixOf t.here || t.items.any (fun (other, _) => names.isPrefixOf other) then
      some .folder
    else none

/-- Puts an item at a list of names. -/
def put (t : FileTree) (names : List String) (item : FileItem) : FileTree :=
  { t with items := (names, item) :: t.items.filter fun (other, _) => other ≠ names }

/-- What was put is found. -/
@[simp] theorem find?_put_self (t : FileTree) (names : List String) (item : FileItem) :
    (t.put names item).find? names = some item := by
  simp [find?, put]

/-! ## Paths -/

/-- The greatest number of bytes of a name. -/
def nameLimit : Nat := 255

/-- The number of bytes that no path reaches. -/
def pathLimit : Nat := 4096

/-- Where a name leads from the folder at `here`. -/
def step (t : FileTree) (here : List String) (name : String) : Except FileError (List String) :=
  match t.find? here with
  | none => .error .notFound
  | some .folder =>
    if name = "" ∨ name = "." then .ok here
    else if name = ".." then .ok here.dropLast
    else if nameLimit < name.utf8ByteSize then .error .nameTooLong
    else .ok (here ++ [name])
  | some _ => .error .notAFolder

/-- Where some names lead from the folder at `here`. -/
def walk (t : FileTree) (here names : List String) : Except FileError (List String) :=
  names.foldlM t.step here

/-- The names in a path. -/
def names (path : List Char) : List String :=
  (Text.splitOn '/' path).map String.ofList

/-- The names that are followed to write to a path. A slash at the end asks for a folder: then the
last name is not followed, and what is reached is the folder that it would be in. -/
def writtenNames (path : List Char) : List String :=
  if path.getLast? = some '/' then
    ((names path).reverse.dropWhile (· = "")).tail.reverse ++ ["."]
  else names path

/-- Where some names of a path lead. The path itself must not be empty or too long. -/
def follow (t : FileTree) (path : String) (names : List String) :
    Except FileError (List String) :=
  if path = "" then .error .notFound
  else if pathLimit ≤ path.utf8ByteSize then .error .nameTooLong
  else t.walk (if path.toList.head? = some '/' then [] else t.here) names

/-! ## Reading and writing -/

/-- What a path names. -/
def get (t : FileTree) (path : String) : Except FileError FileItem :=
  match t.follow path (names path.toList) with
  | .error e => .error e
  | .ok names =>
    match t.find? names with
    | some item => .ok item
    | none => .error .notFound

/-- Whether a path names something. -/
def isThere (t : FileTree) (path : String) : Bool :=
  (t.get path).isOk

/-- The number of bytes of what a path names; only a file has some. -/
def size (t : FileTree) (path : String) : Except FileError Nat :=
  match t.get path with
  | .error e => .error e
  | .ok (.file content _) => .ok content.size
  | .ok _ => .ok 0

/-- The text of what a path names. -/
def readText (t : FileTree) (path : String) : Except FileError String :=
  match t.get path with
  | .error e => .error e
  | .ok .folder => .error .isAFolder
  | .ok (.device _) => .ok ""
  | .ok (.file content access) =>
    if access = .nothing then .error .notPermitted
    else
      match String.fromUTF8? content with
      | some text => .ok text
      | none => .error .notText

/-- Where a text goes that is written to a path. A folder takes none, and neither does a file that
may not be written. -/
def target (t : FileTree) (path : String) : Except FileError (List String) :=
  match t.follow path (writtenNames path.toList) with
  | .error e => .error e
  | .ok names =>
    match (t.find? names).bind FileItem.refusal? with
    | some e => .error e
    | none => .ok names

end FileTree

end Spreadsheet
