import VersionGate.Failure
import VersionGate.Path

/-! The files behind paths. A path is taken from the working directory, and its double dots are
resolved by name alone. -/
namespace VersionGate.Cli

inductive FileKind where
  | file | directory
deriving DecidableEq, Repr

/-- A working directory, and what stands at each absolute path, both by names from the root. -/
structure Files where
  workingDirectory : List (List Char) := []
  kindOf : List (List Char) → Option FileKind := fun _ => none

namespace Files

/-- The directory or file that a name leads to from a directory. -/
def follow (directory : List (List Char)) (name : List Char) : List (List Char) :=
  if name = ['.', '.'] then directory.dropLast else directory ++ [name]

def resolve (files : Files) (path : String) : List (List Char) :=
  let path := Path.ofText path
  path.names.foldl follow (if path.root = .none then files.workingDirectory else [])

/-- The names from the root that a path leads along, for a path that can be looked up. Names end at
a null character wherever files are kept, so none can hold one. -/
def locate (files : Files) (path : String) : Except Failure (List (List Char)) :=
  if path.toList.contains '\x00' then .error (.ofText .value "embedded null byte")
  else .ok (files.resolve path)

end Files

end VersionGate.Cli
