import VersionGate.Failure
import VersionGate.Log.Record
import VersionGate.Value.Json

/-! The two layouts of a written record: one JSON object, or one console line with the stack and the
failure below it. -/
namespace VersionGate.Log

inductive Layout where
  | json | console
deriving DecidableEq, Repr

structure Settings where
  threshold : Threshold := 20
  layout : Layout := .json
deriving DecidableEq, Repr

def padded (width : Nat) (text : String) : List Char :=
  text.toList ++ List.replicate (width - text.length) ' '

def needsQuotes (text : String) : Bool :=
  text.toList.any [' ', '\t', '=', '\r', '\n', '"', '\''].contains

def consoleValue : Value → List Char
  | .text s => if needsQuotes s then Text.quotedChars s.toList else s.toList
  | value => value.literalChars

def consoleField (entry : String × Value) : List Char :=
  entry.1.toList ++ '=' :: consoleValue entry.2

/-- The names of fields that stand in brackets before the others. -/
def bracketed : List String := ["logger", "logger_name"]

def withoutTrailingSpaces (line : List Char) : List Char :=
  (line.reverse.dropWhile (· == ' ')).reverse

def shownField (name : String) (entry : Fields) : String :=
  ((Fields.get? name entry).map Value.shown).getD ""

/-- The names of fields that stand below the line or ask for what does. -/
def below : List String := ["stack", "exception", "exc_info"]

/-- The names of fields that have a place of their own on the line or below it. -/
def placed : List String := ["", "timestamp", "level", "event"] ++ below ++ bracketed

/-- A field without a name, then time, level and event in columns, the logger in brackets, and the
other fields by name. -/
def consoleColumns (entry : Fields) : List Char :=
  let others := entry.filter fun field => !placed.contains field.1
  let parts :=
    ((entry.filter fun field => field.1.isEmpty).map consoleField)
    ++ [(shownField "timestamp" entry).toList,
      '[' :: padded 9 (shownField "level" entry) ++ [']'],
      padded 30 (shownField "event" entry)]
    ++ (bracketed.filterMap fun name =>
        (Fields.get? name entry).map fun value => '[' :: value.shown.toList ++ [']'])
    ++ (others.mergeSort fun a b => a.1 ≤ b.1).map consoleField
  withoutTrailingSpaces ([' '].intercalate parts)

def notText (value : Value) : Failure :=
  .ofText (.other "TypeError")
    ("can only concatenate str (not \"" ++ value.kindName ++ "\") to str")

/-- The text of a field that stands below the line; null is no text, and no fault either. -/
def textBelow (name : String) (entry : Fields) : Except Failure (Option (List Char)) :=
  match Fields.get? name entry with
  | none | some .null => .ok none
  | some (.text s) => .ok (some s.toList)
  | some value => .error (notText value)

/-- What stands below the line: the stack, a rule if a failure is given or asked for, and the
failure. -/
def consoleTrailer (entry : Fields) : Except Failure (List Char) := do
  let stack ← textBelow "stack" entry
  let failure ← textBelow "exception" entry
  let asked := (Fields.get? "exc_info" entry).any fun value => !value.isUnset
  let rule :=
    if asked || failure.isSome then ['\n', '\n'] ++ List.replicate 79 '=' ++ ['\n'] else []
  return stack.elim [] (fun text => '\n' :: text ++ rule) ++ failure.elim [] ('\n' :: ·)

/-- What stands below the line is looked at last, and is none of the fields on the line. -/
def consoleLine (entry : Fields) : Except Failure (List Char) := do
  unless entry.all fun field => below.contains field.1 || field.2.isWritable do
    throw .tooLarge
  let trailer ← consoleTrailer entry
  return consoleColumns entry ++ trailer

def jsonLine (entry : Fields) : Except Failure (List Char) :=
  if (Value.object entry).isWritable then .ok (Value.object entry).jsonChars
  else .error .tooLarge

def line (layout : Layout) (entry : Fields) : Except Failure (List Char) :=
  match layout with
  | .json => jsonLine entry
  | .console => consoleLine entry

def Settings.write? (settings : Settings) (stamp : Stamp) (context : Fields) (r : Record) :
    Except Failure (Option String) :=
  if r.level.weight < settings.threshold then .ok none
  else (line settings.layout (r.entry stamp context)).map fun chars =>
    some (String.ofList chars ++ "\n")

/-- The lines of records in turn, up to the first that cannot be written. -/
def Settings.writeAll (settings : Settings) (stamp : Stamp) (context : Fields) :
    List Record → String × Except Failure Unit
  | [] => ("", .ok ())
  | r :: rest =>
      match settings.write? stamp context r with
      | .error e => ("", .error e)
      | .ok written =>
          match settings.writeAll stamp context rest with
          | (text, outcome) => (written.getD "" ++ text, outcome)

end VersionGate.Log
