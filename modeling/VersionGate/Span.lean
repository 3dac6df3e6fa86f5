import VersionGate.Value

/-! A finished tracing span. Each check has one, named `k8s_version.check`. -/
namespace VersionGate

/-- How the body of a span ended: by itself, by a failure of the named kind, or by an interrupt. -/
inductive Span.Status where
  | ok
  | error (kind : String)
  | unset
deriving DecidableEq, Repr

structure Span where
  name : String
  scope : String
  status : Span.Status
  attributes : Fields
  events : List Fields := []
deriving Repr

namespace Span

def limit : Nat := 128

/-- The attributes after one more is set. It becomes the last, in place of one of its name; beyond
the limit the first is given up. An attribute without a name is passed over. -/
def put (attributes : Fields) (entry : String × Value) : Fields :=
  if entry.1.isEmpty then attributes
  else
    let others := attributes.filter fun known => known.1 ≠ entry.1
    (if others.length < limit then others else others.tail) ++ [entry]

def checkName : String := "k8s_version.check"

def checkScope : String := "floe.k8s_version"

def overrideKey : String := "k8s_version.override"

def currentKey : String := "k8s_version.current"

def minimumKey : String := "k8s_version.minimum"

end Span

end VersionGate
