/-!
# Files and directories

A file cannot be read as text when nothing or no file is at its path, when the path or a name in it
is too long to be looked up, or when its bytes are not UTF-8.

A directory holds files by their paths, whose parts are separated by slashes; every beginning of
such a path is a directory too. A path is followed part by part: an empty part and a single dot stay
where they are and two dots go back, but only from a directory.

A path that begins with a slash, or that goes back further than it went in, leaves the directory.
Outside there are directories alone, and none of them holds anything that has a name: a path never
finds its way back in.
-/

namespace DeclLang

/-- Why a file cannot be read as text. -/
inductive ReadFailure
  | missing
  | folder
  | notFolder
  | nameTooLong
  | notText
  | other (message : String)
  deriving DecidableEq

namespace ReadFailure

/-- A failure in one line, as the system words it. -/
def message : ReadFailure → String
  | .missing => "No such file or directory (os error 2)"
  | .folder => "Is a directory (os error 21)"
  | .notFolder => "Not a directory (os error 20)"
  | .nameTooLong => "File name too long (os error 36)"
  | .notText => "stream did not contain valid UTF-8"
  | .other message => message

/-- The text that the bytes of a file write. -/
def decode (bytes : ByteArray) : Except ReadFailure String :=
  match String.fromUTF8? bytes with
  | some text => .ok text
  | none => .error .notText

end ReadFailure

/-- The files of a directory by path. -/
structure Directory where
  files : List (String × ByteArray)

namespace Directory

/-- What a path leads to. -/
inductive Entry
  | file (bytes : ByteArray)
  | folder

/-- How far a path has led: along some parts into the directory, or out of it. -/
inductive Place
  | inside (here : List String)
  | outside
  deriving DecidableEq

namespace Place

/-- Where two dots lead. -/
def back : Place → Place
  | .inside [] => .outside
  | .inside here => .inside here.dropLast
  | .outside => .outside

/-- Where a name leads. -/
def enter? (name : String) : Place → Option Place
  | .inside here => some (.inside (here ++ [name]))
  | .outside => none

end Place

/-- The number of bytes of the longest name that can be looked up. -/
def longestName : Nat := 255

/-- The number of bytes of the longest path that can be followed. -/
def longestPath : Nat := 4095

/-- The parts of a path. -/
def parts (path : String) : List String :=
  path.splitOn "/"

/-- Where a path begins. -/
def start (path : String) : Place :=
  match path.toList with
  | '/' :: _ => .outside
  | _ => .inside []

/-- The parts of the path of a file in a directory, without those that stay where they are. -/
def names (path : String) : List String :=
  (parts path).filter fun part => part != "" && part != "."

/-- What lies at a place. -/
def entry? (directory : Directory) : Place → Option Entry
  | .outside => some .folder
  | .inside here =>
      match directory.files.find? fun file => names file.1 == here with
      | some file => some (.file file.2)
      | none =>
          if here.isEmpty || directory.files.any fun file => here.isPrefixOf (names file.1) then
            some .folder
          else none

/-- Follows some more parts from a place. A name is looked up, and measured, only in a directory. -/
def follow (directory : Directory) (here : Place) : List String → Except ReadFailure Entry
  | [] =>
      match directory.entry? here with
      | some entry => .ok entry
      | none => .error .missing
  | part :: rest =>
      match directory.entry? here with
      | none => .error .missing
      | some (.file _) => .error .notFolder
      | some .folder =>
          if part = "" ∨ part = "." then follow directory here rest
          else if part = ".." then follow directory here.back rest
          else if longestName < part.utf8ByteSize then .error .nameTooLong
          else
            match here.enter? part with
            | some place => follow directory place rest
            | none => .error .missing

/-- The text of the file at a path. -/
def readText (directory : Directory) (path : String) : Except ReadFailure String :=
  if longestPath < path.utf8ByteSize then .error .nameTooLong
  else
    match directory.follow (start path) (parts path) with
    | .error failure => .error failure
    | .ok .folder => .error .folder
    | .ok (.file bytes) => ReadFailure.decode bytes

end Directory

end DeclLang
