import VersionGate.Version.Form
import VersionGate.Version.Outline

/-! Versions read from text: the form is matched first, and its parts get their values from left
to right. `parse` reads the bare form; `read` also admits one leading `v`, as
clusters report their versions. -/
namespace VersionGate.Version

/-- The text without one leading lower-case `v`; nothing else is taken off. -/
def normalize (text : String) : String :=
  match text.toList with
  | 'v' :: rest => String.ofList rest
  | _ => text

def Outline.ofGroups (groups : Text.Pattern.Groups Field) : Outline :=
  { major := (groups.lookup .major).getD []
    minor := (groups.lookup .minor).getD []
    patch := (groups.lookup .patch).getD []
    prerelease := listed (groups.lookup .prerelease)
    build := listed (groups.lookup .build) }

def number (digits : List Char) : Except Error Nat :=
  match Numeral.read digits with
  | .ok n => .ok n
  | .error e => .error (.tooLong e)

def Outline.version (o : Outline) : Except Error Version := do
  let major ← number o.major
  let minor ← number o.minor
  let patch ← number o.patch
  let prerelease ← identifiers (o.prerelease.map String.ofList)
  ofParts major minor patch prerelease (o.build.map String.ofList)

def parse (text : String) : Except Error Version :=
  if text.isEmpty then .error .empty
  else match Form.version.fullMatch text.toList with
    | none => .error (.malformed text)
    | some groups => (Outline.ofGroups groups).version

def read (text : String) : Except Error Version := parse (normalize text)

end VersionGate.Version
