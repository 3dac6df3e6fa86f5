import VersionGate.Text.Numeral

/-! The statuses with which the program ends. -/
namespace VersionGate.Cli

inductive ExitCode where
  | success
  | generalError
  /-- The arguments are wrong, or the minimum is no version. -/
  | usageError
  /-- The version is below the minimum, or is none. -/
  | validationError
  /-- The cluster could not be reached or asked. -/
  | networkError
deriving DecidableEq, Repr

namespace ExitCode

def number : ExitCode → Nat
  | .success => 0
  | .generalError => 1
  | .usageError => 2
  | .validationError => 5
  | .networkError => 8

def name : ExitCode → String
  | .success => "SUCCESS"
  | .generalError => "GENERAL_ERROR"
  | .usageError => "USAGE_ERROR"
  | .validationError => "VALIDATION_ERROR"
  | .networkError => "NETWORK_ERROR"

def all : List ExitCode :=
  [.success, .generalError, .usageError, .validationError, .networkError]

structure Unknown where
  number : Int
deriving DecidableEq, Repr

/-- A number that cannot be written is refused for that. -/
def Unknown.message (e : Unknown) : String :=
  if Numeral.isWritable e.number then
    String.ofList (Numeral.signed e.number) ++ " is not a valid ExitCode"
  else Numeral.TooLarge.message {}

def ofNumber (n : Int) : Except Unknown ExitCode :=
  match all.find? fun code => (code.number : Int) == n with
  | some code => .ok code
  | none => .error ⟨n⟩

end ExitCode

end VersionGate.Cli
