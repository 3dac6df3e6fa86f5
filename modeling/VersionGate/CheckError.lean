import VersionGate.Value.Literal

/-! The errors of a version check and their wording. -/
namespace VersionGate

inductive CheckError where
  /-- Any other finding. Its message is not looked at before its text is asked for. -/
  | general (message : Value) (details : Fields)
  /-- A version that is no version, and which side of the comparison it is. -/
  | malformed (version role reason : String)
  | incompatible (current minimum overrideKey : String) (prerelease : Bool)
deriving Repr

namespace CheckError

/-- Appended to the message when the current version is a pre-release. -/
def prereleaseNote : String :=
  "note pre-release version is smaller than the corresponding release version "
    ++ "(e.g. 1.x.y-z < 1.x.y), using 1.x.y-0 as the minimum version is likely to "
    ++ "help in this case"

def incompatibility (current minimum overrideKey : String) : String :=
  "kubernetes version \"" ++ current ++ "\" is not compatible, need at least \"" ++ minimum
    ++ "\" (this can be overridden with the env var \"" ++ overrideKey ++ "\")"

def message : CheckError → String
  | .general message _ => message.shown
  | .malformed version role reason =>
      "invalid " ++ role ++ " kubernetes version " ++ Text.quoted version ++ ": " ++ reason
  | .incompatible current minimum overrideKey false => incompatibility current minimum overrideKey
  | .incompatible current minimum overrideKey true =>
      "pre-release " ++ incompatibility current minimum overrideKey ++ "; " ++ prereleaseNote

/-- A message of the given kind, where only text makes the text of an error. -/
structure Untold where
  kind : String
deriving DecidableEq, Repr

def Untold.message (e : Untold) : String := "__str__ returned non-string (type " ++ e.kind ++ ")"

def print : CheckError → Except Untold String
  | .general (.text message) _ => .ok message
  | .general message _ => .error ⟨message.kindName⟩
  | e => .ok e.message

def attributes : CheckError → Fields
  | .general _ _ => []
  | .malformed version role _ => [("version_string", .text version), ("role", .text role)]
  | .incompatible current minimum overrideKey prerelease =>
      [("current_version", .text current), ("minimum_version", .text minimum),
        ("override_key", .text overrideKey), ("is_prerelease", .bool prerelease)]

def details : CheckError → Fields
  | .general _ details => details
  | e => e.attributes

def name : CheckError → String
  | .general _ _ => "VersionCheckError"
  | .malformed _ _ _ => "VersionParseError"
  | .incompatible _ _ _ _ => "IncompatibleVersionError"

/-- The kind of the error and the kinds that it is a case of, the most general last. -/
def ancestry (e : CheckError) : List String :=
  match e with
  | .general _ _ => [e.name, "Exception", "BaseException", "object"]
  | _ => [e.name, "VersionCheckError", "Exception", "BaseException", "object"]

end CheckError

end VersionGate
