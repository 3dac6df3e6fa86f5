import VersionGate.Cli.ExitCode
import VersionGate.Run
import VersionGate.Value.Literal

/-! Lines for people: results on the output channel, errors and progress on the diagnostics channel. -/
namespace VersionGate.Cli.Notice

def contextItem? : String × Value → Option String
  | (_, .null) => none
  | (name, value) => some (name ++ "=" ++ value.shown)

/-- An error line, with its context in round brackets if any context is given. -/
def errorText (message : String) (context : Fields) : String :=
  if context.isEmpty then "Error: " ++ message
  else "Error: " ++ message ++ " (" ++ ", ".intercalate (context.filterMap contextItem?) ++ ")"

def isWritable (context : Fields) : Bool := context.all fun entry => entry.2.isWritable

/-- A line of which some part cannot be written is not written at all. -/
def error (message : String) (context : Fields) : Run Unit :=
  if isWritable context then Run.print .diagnostics (errorText message context)
  else Run.fail Failure.tooLarge

theorem error_eq_print {message : String} {context : Fields} (writable : isWritable context = true) :
    error message context = Run.print .diagnostics (errorText message context) :=
  if_pos writable

def errorExit (message : String) (code : ExitCode) (context : Fields) : Run ExitCode := do
  error message context
  return code

def success (message : String) : Run Unit := Run.print .output message

def info (message : String) : Run Unit := Run.print .diagnostics message

end VersionGate.Cli.Notice
