import VersionGate.CheckError
import VersionGate.MissingPart
import VersionGate.Validation
import VersionGate.Version.Basic
import VersionGate.Text.Numeral

/-! Whatever can end a run early: faults of the collaborators that load configuration and answer
for the cluster, refused records, and the errors of the check itself. -/
namespace VersionGate

inductive Fault where
  | connection | timeout | value | key | runtime | system | fileNotFound | endOfFile
  | interrupt | configuration
  /-- Any other kind that is no interrupt, by its name. -/
  | other (name : String)
deriving DecidableEq, Repr

def Fault.name : Fault → String
  | .connection => "ConnectionError"
  | .timeout => "TimeoutError"
  | .value => "ValueError"
  | .key => "KeyError"
  | .runtime => "RuntimeError"
  | .system => "OSError"
  | .fileNotFound => "FileNotFoundError"
  | .endOfFile => "EOFError"
  | .interrupt => "KeyboardInterrupt"
  | .configuration => "ConfigException"
  | .other name => name

mutual

inductive Failure where
  | fault (kind : Fault) (wording : Wording)
  | refusal (status : Option Int) (reason : Option String)
  | invalid (e : Invalid)
  | missing (m : MissingPart)
  | check (e : CheckError) (cause : Option Version.Error)

/-- What a fault has to say of itself. -/
inductive Wording where
  | silent
  | saying (argument : Value)
  /-- It makes its text on its own, and what is seen of asking for it is another failure. -/
  | failing (inTurn : Failure)

end

deriving instance Repr for Failure, Wording

namespace Failure

def ofText (kind : Fault) (text : String) : Failure := .fault kind (.saying (.text text))

def ofVersion (e : Version.Error) : Failure := ofText .value e.message

def tooLarge : Failure := ofText .value (Numeral.TooLarge.message {})

def name : Failure → String
  | .fault kind _ => kind.name
  | .refusal _ _ => "ApiException"
  | .invalid _ => "ValidationError"
  | .missing _ => "AttributeError"
  | .check e _ => e.name

/-- A missing key is shown as it would be written, anything else by its text. -/
def shownArgument (kind : Fault) (argument : Value) : String :=
  if kind = .key then argument.literal else argument.shown

/-- The text of a failure, or else the failure of asking for it: a number may be too large to be
written, a message may be no text, and a fault may fail at its own. -/
def print : Failure → Except Failure String
  | .fault _ .silent => .ok ""
  | .fault kind (.saying argument) =>
      if argument.isWritable then .ok (shownArgument kind argument) else .error tooLarge
  | .fault _ (.failing inTurn) => .error inTurn
  | .refusal status reason =>
      if status.all Numeral.isWritable then
        .ok ("(" ++ (status.elim "None" fun n => String.ofList (Numeral.signed n)) ++ ")\nReason: "
          ++ reason.getD "None" ++ "\n")
      else .error tooLarge
  | .invalid e => .ok e.message
  | .missing m => .ok m.message
  | .check e _ => e.print.mapError fun untold => ofText (.other "TypeError") untold.message

@[simp] theorem print_malformed (version role reason : String) (cause : Option Version.Error) :
    print (.check (.malformed version role reason) cause) =
      .ok (CheckError.malformed version role reason).message := rfl

@[simp] theorem print_incompatible (current minimum overrideKey : String) (prerelease : Bool)
    (cause : Option Version.Error) :
    print (.check (.incompatible current minimum overrideKey prerelease) cause) =
      .ok (CheckError.incompatible current minimum overrideKey prerelease).message := rfl

/-- An interrupt ends the program and is never taken for a verdict or a failure of the cluster. -/
def isInterrupt : Failure → Bool
  | .fault .interrupt _ => true
  | _ => false

def isConfiguration : Failure → Bool
  | .fault .configuration _ => true
  | _ => false

theorem isInterrupt_eq_false {failure : Failure}
    (other : ∀ wording, failure ≠ .fault .interrupt wording) : failure.isInterrupt = false := by
  rw [Bool.eq_false_iff]
  intro interrupt
  unfold isInterrupt at interrupt
  split at interrupt
  · exact other _ rfl
  · contradiction

theorem isConfiguration_eq_false {failure : Failure}
    (other : ∀ wording, failure ≠ .fault .configuration wording) :
    failure.isConfiguration = false := by
  rw [Bool.eq_false_iff]
  intro configuration
  unfold isConfiguration at configuration
  split at configuration
  · exact other _ rfl
  · contradiction

end Failure

end VersionGate
