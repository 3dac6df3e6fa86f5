import VersionGate.Text.Quoted

/-! What can be wrong with the arguments of a command. -/
namespace VersionGate.Cli

inductive UsageError where
  | noSuchOption (name : String)
  | noSuchCommand (name : String)
  | missingCommand
  | unexpected (operands : List String)
  /-- A value is attached to an option that takes none. -/
  | valueNotTaken (name : String)
  /-- The arguments end where the value of an option should stand. -/
  | valueMissing (name : String)
  | notAChoice (label value : String) (choices : List String)
  | noSuchFile (label path : String)
  | isDirectory (label path : String)
deriving DecidableEq, Repr

namespace UsageError

def invalidValue (label problem : String) : String :=
  "Invalid value for " ++ label ++ ": " ++ problem

def message : UsageError → String
  | .noSuchOption name => "No such option " ++ Text.quoted name ++ "."
  | .noSuchCommand name => "No such command " ++ Text.quoted name ++ "."
  | .missingCommand => "Missing command."
  | .unexpected operands =>
      (if operands.length = 1 then "Got unexpected extra argument ("
        else "Got unexpected extra arguments (") ++ " ".intercalate operands ++ ")"
  | .valueNotTaken name => "Option " ++ Text.quoted name ++ " does not take a value."
  | .valueMissing name => "Option " ++ Text.quoted name ++ " requires an argument."
  | .notAChoice label value choices =>
      invalidValue label (Text.quoted value ++ " is not one of "
        ++ ", ".intercalate (choices.map Text.quoted) ++ ".")
  | .noSuchFile label path =>
      invalidValue label ("File " ++ Text.quoted path ++ " does not exist.")
  | .isDirectory label path =>
      invalidValue label ("File " ++ Text.quoted path ++ " is a directory.")

/-- Whether the usage of the command is shown above the message; it is not for an option whose
value is misplaced. -/
def showsUsage : UsageError → Bool
  | .valueNotTaken _ | .valueMissing _ => false
  | _ => true

end UsageError

end VersionGate.Cli
