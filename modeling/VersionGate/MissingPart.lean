import VersionGate.Text.Quoted

/-! A part that something was asked for and does not have. -/
namespace VersionGate

/-- What was asked: the package or a chapter of it by its full name, or a thing by its kind. -/
inductive MissingPart.Owner where
  | package
  | chapter (name : String)
  | thing (kind : String)
deriving DecidableEq, Repr

structure MissingPart where
  owner : MissingPart.Owner
  part : String
deriving DecidableEq, Repr

namespace MissingPart

def package : String := "floe_k8s_version"

def named (name : String) : String := "'" ++ name ++ "'"

/-- The package quotes the part that it was asked for; elsewhere it stands as it is. -/
def message (m : MissingPart) : String :=
  match m.owner with
  | .package => "module " ++ Text.quoted package ++ " has no attribute " ++ Text.quoted m.part
  | .chapter name => "module " ++ named name ++ " has no attribute " ++ named m.part
  | .thing kind => named kind ++ " object has no attribute " ++ named m.part

end MissingPart

end VersionGate
