import VersionGate.Version.Outline

/-! Versions as text: `render` writes the form that is read, `print` refuses numbers that are too
large, and so does `describe`, which shows the parts of the value. -/
namespace VersionGate.Version

def outline (v : Version) : Outline :=
  { major := Numeral.write v.major
    minor := Numeral.write v.minor
    patch := Numeral.write v.patch
    prerelease := v.prerelease.map Identifier.chars
    build := v.build.map String.toList }

def render (v : Version) : String := String.ofList v.outline.text

def isWritable (v : Version) : Bool :=
  Numeral.isWritable v.major && Numeral.isWritable v.minor && Numeral.isWritable v.patch
    && v.prerelease.all Identifier.isWritable

def print (v : Version) : Except Numeral.TooLarge String :=
  if v.isWritable then .ok v.render else .error {}

/-- Items between round brackets; a single item is followed by a comma. -/
def describeItems : List String → String
  | [] => "()"
  | [item] => "(" ++ item ++ ",)"
  | items => "(" ++ String.intercalate ", " items ++ ")"

def described (v : Version) : String :=
  "SemanticVersion(major=" ++ Nat.repr v.major ++ ", minor=" ++ Nat.repr v.minor
    ++ ", patch=" ++ Nat.repr v.patch
    ++ ", prerelease=" ++ describeItems (v.prerelease.map Identifier.described)
    ++ ", build=" ++ describeItems (v.build.map Text.quoted) ++ ")"

def describe (v : Version) : Except Numeral.TooLarge String :=
  if v.isWritable then .ok v.described else .error {}

end VersionGate.Version
