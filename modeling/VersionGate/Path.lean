import VersionGate.Text.Pieces

/-! Paths as text. A path is a root, or none, and the names that lead on from there. Empty names and
single dots lead nowhere and are dropped; two dots stay, for what they lead to is not a matter of
names alone. -/
namespace VersionGate

inductive Path.Root where
  | none
  | slash
  /-- Two slashes in front are a root of their own; one, or three and more, are the common root. -/
  | slashes
deriving DecidableEq, Repr

structure Path where
  root : Path.Root := .none
  names : List (List Char) := []
deriving DecidableEq, Repr

namespace Path

def Root.chars : Root → List Char
  | .none => []
  | .slash => ['/']
  | .slashes => ['/', '/']

def leads (name : List Char) : Bool := !name.isEmpty && name != ['.']

def rootOf : List Char → Root
  | '/' :: '/' :: '/' :: _ => .slash
  | '/' :: '/' :: _ => .slashes
  | '/' :: _ => .slash
  | _ => .none

def ofText (text : String) : Path where
  root := rootOf text.toList
  names := (Text.pieces '/' text.toList).filter leads

/-- The path as text; one that leads nowhere is a single dot. -/
def chars (p : Path) : List Char :=
  match p.root, p.names with
  | .none, [] => ['.']
  | root, names => root.chars ++ Text.joined '/' names

def text (p : Path) : String := String.ofList p.chars

def absolute (names : List (List Char)) : Path := { root := .slash, names }

end Path

end VersionGate
