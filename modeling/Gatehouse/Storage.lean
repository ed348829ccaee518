import Gatehouse.Text.Blank
import Gatehouse.Text.Utf8

namespace Gatehouse

/-!
# Files

The files that a configuration refers to, as whoever reads them finds them.

* `FileTree`, `FileTree.read` — the bytes of the file at a path, or why it cannot be read;
* `FileFault.message` — the wording;
* `Directory`, `FileTree.ofFiles` — the files of one directory, with no others around it.
-/

/-- Why a file cannot be read. Faults of other kinds are known by their wording. -/
inductive FileFault where
  | missing
  | notDirectory
  | isDirectory
  | nulInName
  | nameTooLong
  | other (message : String)
  deriving DecidableEq, Repr, Inhabited

/-- The wording of a file fault. -/
def FileFault.message : FileFault → String
  | .missing => "No such file or directory (os error 2)"
  | .notDirectory => "Not a directory (os error 20)"
  | .isDirectory => "Is a directory (os error 21)"
  | .nulInName => "file name contained an unexpected NUL byte"
  | .nameTooLong => "File name too long (os error 36)"
  | .other message => message

/-- Files, by what comes of reading a path: any path may lead to a file, or fail in any way. -/
structure FileTree where
  read : String → Except FileFault Bytes
  deriving Inhabited

/-! ### One directory -/

/-- The files below a directory, by the names that lead to them. -/
structure Directory where
  files : List (List String × Bytes)
  deriving Repr, Inhabited

namespace Directory

/-- The names on a path; empty names and `.` stand for the directory reached so far. -/
def names (path : String) : List String :=
  ((Text.splitAll '/' path.toList).map String.ofList).filter fun n => !(n.isEmpty || n == ".")

/-- The file at the end of a list of names. -/
def find? (d : Directory) (place : List String) : Option Bytes :=
  (d.files.find? (·.1 = place)).map (·.2)

/-- Whether a list of names leads to a directory. -/
def isDirectory (d : Directory) (place : List String) : Bool :=
  place.isEmpty || d.files.any fun f => place.isPrefixOf f.1 && place.length < f.1.length

/-- The longest name admitted, in bytes. -/
def maxName : Nat := 255

/-- Follows names from a place in the directory, `..` to the place above. What lies above the
    directory itself is not there. -/
def follow (d : Directory) (place : List String) : List String → Except FileFault (List String)
  | [] => .ok place
  | name :: rest =>
    if !d.isDirectory place then
      .error (if (d.find? place).isSome then .notDirectory else .missing)
    else if name = ".." then
      if place.isEmpty then .error .missing else d.follow place.dropLast rest
    else if maxName < Utf8.size name.toList then .error .nameTooLong
    else d.follow (place ++ [name]) rest

/-- The bytes of the file a path leads to. Absolute paths lead out of the directory. -/
def read (d : Directory) (path : String) : Except FileFault Bytes :=
  let onDirectory := path.toList.getLast? = some '/' || path.endsWith "/."
  if path.toList.contains '\x00' then .error .nulInName
  else if path.isEmpty then .error .missing
  else if path.toList.head? = some '/' then
    if (names path).isEmpty then .error .isDirectory else .error .missing
  else do
    let place ← d.follow [] (names path)
    match d.find? place with
    | some bytes => if onDirectory then .error .notDirectory else .ok bytes
    | none => if d.isDirectory place then .error .isDirectory else .error .missing

end Directory

/-- What can be read in a directory with these files, given by their paths. -/
def FileTree.ofFiles (files : List (String × Bytes)) : FileTree :=
  ⟨(Directory.mk (files.map fun f => (Directory.names f.1, f.2))).read⟩

end Gatehouse
