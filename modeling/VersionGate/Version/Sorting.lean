import VersionGate.Version.Precedence

/-! Lists of versions in order. Versions that differ only in build metadata keep the order in which
they were given, in both directions. -/
namespace VersionGate.Version

def sorted (versions : List Version) : List Version :=
  versions.mergeSort fun a b => !b.precedes a

def sortedDown (versions : List Version) : List Version :=
  versions.mergeSort fun a b => !a.precedes b

/-- The first of the versions that none precedes. -/
def least? : List Version → Option Version
  | [] => none
  | v :: rest => some (rest.foldl (fun best next => if next.precedes best then next else best) v)

def greatest? : List Version → Option Version
  | [] => none
  | v :: rest => some (rest.foldl (fun best next => if best.precedes next then next else best) v)

/-- One version of each class of equal precedence, the first given. -/
def distinct : List Version → List Version
  | [] => []
  | v :: rest => v :: (distinct rest).filter fun other => !v.same other

end VersionGate.Version
