import VersionGate.Version.Identifier

/-! A version: three numbers, the identifiers of its pre-release, and build metadata that takes no
part in its order. -/
namespace VersionGate

structure Version where
  major : Nat
  minor : Nat
  patch : Nat
  prerelease : List Identifier := []
  build : List String := []
deriving DecidableEq, Repr

namespace Version

inductive Part where
  | major | minor | patch
deriving DecidableEq, Repr

def Part.name : Part → String
  | .major => "major"
  | .minor => "minor"
  | .patch => "patch"

inductive Error where
  | empty
  | malformed (text : String)
  | tooLong (e : Numeral.TooLong)
  | identifier (e : Identifier.Error)
  | tooLarge (e : Numeral.TooLarge)
  | negative (part : Part)
deriving DecidableEq, Repr

def Error.message : Error → String
  | .empty => "Version string empty"
  | .malformed text => "Invalid semantic version " ++ Text.quoted text
  | .tooLong e => e.message
  | .identifier e => e.message
  | .tooLarge e => e.message
  | .negative part => part.name ++ " version must be non-negative"

def ofParts (major minor patch : Int) (prerelease : List Identifier) (build : List String) :
    Except Error Version :=
  if major < 0 then .error (.negative .major)
  else if minor < 0 then .error (.negative .minor)
  else if patch < 0 then .error (.negative .patch)
  else .ok ⟨major.toNat, minor.toNat, patch.toNat, prerelease, build⟩

@[simp] theorem ofParts_natCast (major minor patch : Nat) (prerelease : List Identifier)
    (build : List String) : ofParts major minor patch prerelease build =
      .ok ⟨major, minor, patch, prerelease, build⟩ := by
  simp [ofParts, Int.not_lt.mpr (Int.natCast_nonneg _)]

def isPrerelease (v : Version) : Bool := !v.prerelease.isEmpty

def identifiers : List String → Except Error (List Identifier)
  | [] => .ok []
  | text :: rest =>
      match Identifier.parse text with
      | .error e => .error (.identifier e)
      | .ok identifier =>
          match identifiers rest with
          | .error e => .error e
          | .ok others => .ok (identifier :: others)

/-- The identifiers written and read again one after the other, as far as they can be. -/
def reread : List Identifier → Except Error (List Identifier)
  | [] => .ok []
  | given :: rest =>
      match given.print with
      | .error e => .error (.tooLarge e)
      | .ok text =>
          match Identifier.parse text with
          | .error e => .error (.identifier e)
          | .ok identifier =>
              match reread rest with
              | .error e => .error e
              | .ok others => .ok (identifier :: others)

/-- The version with the given identifiers, each read from its text, in place of its pre-release. -/
def withPrerelease (v : Version) (given : List Identifier) : Except Error Version :=
  match reread given with
  | .error e => .error e
  | .ok prerelease => ofParts v.major v.minor v.patch prerelease v.build

/-- The least version that a minimum `v` admits: without a pre-release of its own, the first
pre-release of the same numbers. -/
def floor (v : Version) : Except Error Version :=
  if v.isPrerelease then .ok v else v.withPrerelease [.number 0]

def kindName : String := "SemanticVersion"

end Version

end VersionGate
