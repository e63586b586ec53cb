/-!
# Files

Reading files by path, and why that fails.  `Files.ofTree` finds files by their paths below a working
directory, as a path is followed name by name; of what lies outside that directory it knows only that
directories are there.
-/

namespace RequestDispatch

/-- Why a file cannot be read. -/
inductive FileError where
  | missing
  /-- The path leads to a directory. -/
  | directory
  /-- The path goes on behind something that is no directory. -/
  | notDirectory
  | nameTooLong
  /-- The path holds a character that no path may hold. -/
  | invalidName
  | unreadable
  deriving DecidableEq, Repr

namespace FileError

def message : FileError → String
  | .missing => "no such file"
  | .directory => "is a directory"
  | .notDirectory => "not a directory"
  | .nameTooLong => "the file name is too long"
  | .invalidName => "the file name holds a zero character"
  | .unreadable => "the file cannot be read"

end FileError

/-- Contents of files by path. -/
abbrev Files := String → Except FileError String

namespace Files

/-- Most bytes of one name. -/
def nameLimit : Nat := 255

/-- The least number of bytes that is too long for a path. -/
def pathLimit : Nat := 4096

/-- Follows the names of a path from a directory, which is given by its names below the working one, or
lies outside it. -/
def follow (tree : List (List String × String)) :
    Option (List String) → List String → Except FileError String
  | _, [] => .error .directory
  | here, name :: rest =>
    if name.isEmpty || name = "." then follow tree here rest
    else if name = ".." then
      follow tree (here.bind fun names => if names.isEmpty then none else some names.dropLast) rest
    else if nameLimit < name.utf8ByteSize then .error .nameTooLong
    else match here with
      | none => .error .missing
      | some names =>
        let path := names ++ [name]
        match tree.lookup path with
        | some text => if rest.isEmpty then .ok text else .error .notDirectory
        | none =>
          if tree.any fun entry => path.isPrefixOf entry.1 then follow tree (some path) rest
          else .error .missing

/-- The files below the working directory, by their paths. -/
def ofTree (entries : List (String × String)) : Files := fun path =>
  if path.toList.contains '\x00' then .error .invalidName
  else if pathLimit ≤ path.utf8ByteSize then .error .nameTooLong
  else if path.isEmpty then .error .missing
  else
    let tree := entries.map fun (name, text) => (name.splitOn "/", text)
    follow tree (if path.startsWith "/" then none else some []) (path.splitOn "/")

end Files

end RequestDispatch
