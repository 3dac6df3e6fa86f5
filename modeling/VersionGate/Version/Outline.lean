import VersionGate.Version.Basic
import VersionGate.Text.Pieces

/-! The outline of a version text: its parts as they are spelt, before any is given a value.
`Outline.text` spells it again. -/
namespace VersionGate.Version

structure Outline where
  major : List Char
  minor : List Char
  patch : List Char
  prerelease : List (List Char) := []
  build : List (List Char) := []
deriving DecidableEq, Repr

namespace Outline

def suffix (mark : Char) : List (List Char) → List Char
  | [] => []
  | word :: rest => mark :: Text.joined '.' (word :: rest)

def text (o : Outline) : List Char :=
  o.major ++ '.' :: o.minor ++ '.' :: o.patch ++ suffix '-' o.prerelease ++ suffix '+' o.build

def listed : Option (List Char) → List (List Char)
  | none | some [] => []
  | some text => Text.pieces '.' text

end Outline

end VersionGate.Version
