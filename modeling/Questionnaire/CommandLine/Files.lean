import Questionnaire.Text.Basic

/-!
# Files

A template is read from a path.  Here a path is looked up in a directory that
holds files and nothing else, and of whose surroundings nothing is known.

## Main definitions

* `ReadFault`, `ReadFault.message` — why a file cannot be read.
* `Directory` — files with their bytes.
* `Directory.read` — the text of the file at a path.
-/

namespace Questionnaire

/-- Why a file cannot be read. -/
inductive ReadFault where
  /-- Nothing is at the path. -/
  | missing
  /-- A directory is at the path. -/
  | directory
  /-- The path leads through a file. -/
  | throughFile
  /-- A name in the path is too long. -/
  | longName
  /-- The path has a null character. -/
  | nullInPath
  /-- The file is not UTF-8. -/
  | notText
  /-- The system says something else. -/
  | other (said : Text)
  deriving DecidableEq, Repr

/-- What the system says about a file that cannot be read. -/
def ReadFault.message : ReadFault → Text
  | .missing => "No such file or directory (os error 2)".toList
  | .directory => "Is a directory (os error 21)".toList
  | .throughFile => "Not a directory (os error 20)".toList
  | .longName => "File name too long (os error 36)".toList
  | .nullInPath => "file name contained an unexpected NUL byte".toList
  | .notText => "stream did not contain valid UTF-8".toList
  | .other said => said

/-- The text of bytes in UTF-8. -/
def decodeBytes? (bytes : ByteArray) : Option Text :=
  (String.fromUTF8? bytes).map String.toList

/-- The number of bytes of a text in UTF-8. -/
def byteLength (t : Text) : Nat := t.foldl (fun n c => n + c.utf8Size) 0

/-- The greatest number of bytes of a name in a path. -/
def longestName : Nat := 255

/-- The greatest number of bytes of a path. -/
def longestPath : Nat := 4095

/-- The files of a directory, each a name and its bytes. -/
abbrev Directory := List (Text × ByteArray)

namespace Directory

/-- What a path leads to. -/
inductive Place where
  /-- The directory itself. -/
  | here
  /-- A directory around it. -/
  | outside
  /-- A file. -/
  | file (bytes : ByteArray)

/-- What the next name of a path leads to. -/
def enter (d : Directory) (place : Place) (name : Text) : Except ReadFault Place :=
  match place with
  | .file _ => .error .throughFile
  | place =>
    if name.isEmpty || name = ['.'] then .ok place
    else if name = ['.', '.'] then .ok .outside
    else if longestName < byteLength name then .error .longName
    else match place, d.find? (·.1 == name) with
      | .here, some (_, bytes) => .ok (.file bytes)
      | _, _ => .error .missing

/-- The bytes of the file at a path. -/
def readBytes (d : Directory) (path : Text) : Except ReadFault ByteArray := do
  if path.contains '\x00' then .error .nullInPath
  else if longestPath < byteLength path then .error .longName
  else
    let first := if path.head? = some '/' then .outside else .here
    match ← (path.splitOn '/').foldlM (enter d) first with
    | .file bytes => .ok bytes
    | _ => .error .directory

/-- The text of the file at a path. -/
def read (d : Directory) (path : Text) : Except ReadFault Text := do
  let bytes ← d.readBytes path
  match decodeBytes? bytes with
  | some t => .ok t
  | none => .error .notText

end Directory

end Questionnaire
