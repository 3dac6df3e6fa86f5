import VersionGate.Value

/-! The six relations of an order, all decided by "comes before" and "is the same". Between values
of different kinds only sameness has an answer. -/
namespace VersionGate

inductive Relation where
  | lt | le | gt | ge | eq | ne
deriving DecidableEq, Repr

namespace Relation

def symbol : Relation → String
  | .lt => "<"
  | .le => "<="
  | .gt => ">"
  | .ge => ">="
  | .eq => "=="
  | .ne => "!="

/-- Whether the relation holds between two values of which the first comes before the second, or
is the same, as given. -/
def holds (before same : Bool) : Relation → Bool
  | .lt => before
  | .le => before || same
  | .gt => !before && !same
  | .ge => !before
  | .eq => same
  | .ne => !same

/-- The relation asked between a value of the kind `kind` and one of another kind. -/
structure Mismatch where
  relation : Relation
  kind : String
  other : String
deriving DecidableEq, Repr

def Mismatch.message (e : Mismatch) : String :=
  "'" ++ e.relation.symbol ++ "' not supported between instances of '" ++ e.kind ++ "' and '"
    ++ e.other ++ "'"

def acrossKinds (kind : String) (other : Value) : Relation → Except Mismatch Bool
  | .eq => .ok false
  | .ne => .ok true
  | relation => .error ⟨relation, kind, other.kindName⟩

end Relation

end VersionGate
