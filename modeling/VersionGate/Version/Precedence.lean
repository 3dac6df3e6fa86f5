import VersionGate.Version.Basic

/-! The order of versions: by the three numbers, then a release above its pre-releases, then by the
pre-release identifiers. Build metadata never counts. -/
namespace VersionGate.Version

/-- The first place where the lists differ decides; if there is none, the shorter comes first. -/
def compareIdentifiers : List Identifier → List Identifier → Ordering
  | [], [] => .eq
  | [], _ :: _ => .lt
  | _ :: _, [] => .gt
  | a :: as, b :: bs =>
      if a = b then compareIdentifiers as bs
      else if a.precedes b then .lt else .gt

/-- No identifiers at all rank above any. -/
def comparePrerelease : List Identifier → List Identifier → Ordering
  | [], [] => .eq
  | [], _ :: _ => .gt
  | _ :: _, [] => .lt
  | as, bs => compareIdentifiers as bs

def compare (a b : Version) : Ordering :=
  if a.major ≠ b.major then Ord.compare a.major b.major
  else if a.minor ≠ b.minor then Ord.compare a.minor b.minor
  else if a.patch ≠ b.patch then Ord.compare a.patch b.patch
  else comparePrerelease a.prerelease b.prerelease

def precedes (a b : Version) : Bool := a.compare b == .lt

def same (a b : Version) : Bool :=
  a.major == b.major && a.minor == b.minor && a.patch == b.patch && a.prerelease == b.prerelease

def relate (relation : Relation) (a b : Version) : Bool :=
  relation.holds (a.precedes b) (a.same b)

end VersionGate.Version
