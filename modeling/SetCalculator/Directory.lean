/-!
# Directories

A run reads and writes files in a directory that holds files alone. A path is followed part by
part: empty parts and `.` stay where they are, `..` leaves the directory, and no part can follow
the name of a file, not even an empty one. A path for writing must not end in a name and a slash,
since that asks for a directory. Every way to go wrong has the number and the words of the
operating system.
-/

namespace SetCalculator

/-- An error of the operating system. -/
structure SystemError where
  description : String
  number : Nat
  deriving DecidableEq, Repr

namespace SystemError

/-- A name that does not exist. -/
def noEntry : SystemError := ⟨"No such file or directory", 2⟩

/-- A file where a directory is needed. -/
def notDirectory : SystemError := ⟨"Not a directory", 20⟩

/-- A directory where a file is needed. -/
def isDirectory : SystemError := ⟨"Is a directory", 21⟩

/-- A path or one of its parts that is too long. -/
def nameTooLong : SystemError := ⟨"File name too long", 36⟩

/-- The words and the number. -/
def message (e : SystemError) : String :=
  e.description ++ " (os error " ++ toString e.number ++ ")"

end SystemError

/-- The files of a directory: the name and the contents of each. -/
structure Directory where
  files : List (String × List UInt8)
  deriving DecidableEq, Repr

/-- What a path can be opened as. -/
inductive Opened where
  /-- A file with its contents. -/
  | file (contents : List UInt8)
  /-- A directory, of which nothing can be read. -/
  | directory
  deriving DecidableEq, Repr

namespace Directory

/-- The longest part of a path and the longest path, in bytes. -/
def longestName : Nat := 255

@[inherit_doc longestName]
def longestPath : Nat := 4095

/-- Where a path leads. -/
inductive Place where
  /-- The directory itself. -/
  | here
  /-- A directory outside, of which nothing is known. -/
  | outside
  /-- A file of the directory. -/
  | file (name : String)
  /-- A name without a file, in this directory or in one outside. -/
  | free (name : String) (inside : Bool)
  deriving DecidableEq, Repr

/-- The contents of a file. -/
def contents? (d : Directory) (name : String) : Option (List UInt8) := d.files.lookup name

/-- Follows one part of a path. -/
def enter (d : Directory) (place : Place) (part : String) : Except SystemError Place :=
  match place with
  | .file _ => .error .notDirectory
  | .free _ _ => .error .noEntry
  | .here =>
    if part = "" ∨ part = "." then .ok .here
    else if part = ".." then .ok .outside
    else if longestName < part.utf8ByteSize then .error .nameTooLong
    else .ok (if (d.contents? part).isSome then .file part else .free part true)
  | .outside =>
    if part = "" ∨ part = "." ∨ part = ".." then .ok .outside
    else if longestName < part.utf8ByteSize then .error .nameTooLong
    else .ok (.free part false)

/-- The parts of a path, between its slashes. -/
def parts (path : String) : List String := (path.toList.splitOn '/').map String.ofList

/-- Where a path begins. -/
def start (path : String) : Place := if path.toList.head? = some '/' then .outside else .here

/-- Follows some of the parts of a path. -/
def follow (d : Directory) (path : String) (parts : List String) : Except SystemError Place :=
  if path = "" then .error .noEntry
  else if longestPath < path.utf8ByteSize then .error .nameTooLong
  else parts.foldlM d.enter (start path)

/-- Follows a path. -/
def locate (d : Directory) (path : String) : Except SystemError Place := d.follow path (parts path)

/-- Whether a part of a path names something, rather than staying or leaving. -/
def isName (part : String) : Bool := part ≠ "" && part ≠ "." && part ≠ ".."

/-- The parts before the last name, if slashes and nothing else follow that name. -/
def beforeSlashedName? (parts : List String) : Option (List String) :=
  match parts.reverse.span (· == "") with
  | (_ :: _, name :: before) => if isName name then some before.reverse else none
  | _ => none

/-- Follows a path to where a file is to be written. A name and a slash ask for a directory,
whether or not there is anything of that name. -/
def locateForWriting (d : Directory) (path : String) : Except SystemError Place :=
  match beforeSlashedName? (parts path) with
  | none => d.locate path
  | some before => do
    let parent ← d.follow path before
    let _ ← d.enter parent "."
    .error .isDirectory

/-- Opens a path for reading. -/
def read (d : Directory) (path : String) : Except SystemError Opened :=
  match d.locate path with
  | .error e => .error e
  | .ok .here => .ok .directory
  | .ok .outside => .ok .directory
  | .ok (.file name) => .ok (.file ((d.contents? name).getD []))
  | .ok (.free _ _) => .error .noEntry

/-- The directory with the contents of one file replaced, or with the file added. -/
def put (d : Directory) (name : String) (contents : List UInt8) : Directory :=
  if (d.contents? name).isSome then
    ⟨d.files.map fun f => if f.1 = name then (name, contents) else f⟩
  else ⟨d.files ++ [(name, contents)]⟩

/-- The directory with the given files; of two with one name the later counts. -/
def ofList (files : List (String × List UInt8)) : Directory :=
  files.foldl (fun d f => d.put f.1 f.2) ⟨[]⟩

/-- Writes a file at a path. -/
def write (d : Directory) (path : String) (contents : List UInt8) :
    Except SystemError Directory :=
  match d.locateForWriting path with
  | .error e => .error e
  | .ok .here => .error .isDirectory
  | .ok .outside => .error .isDirectory
  | .ok (.file name) => .ok (d.put name contents)
  | .ok (.free name true) => .ok (d.put name contents)
  | .ok (.free _ false) => .error .noEntry

end Directory

end SetCalculator
