import VersionGate.Value.Literal

/-! Values as JSON text in ASCII: a comma or colon is followed by one space, and every character
outside the printable ASCII range is written by its UTF-16 code units. -/
namespace VersionGate.Value

def jsonUnit (unit : Nat) : List Char := '\\' :: 'u' :: Text.hexDigits 4 unit

/-- A code point above U+FFFF takes two units, the second from the low surrogates. -/
def jsonUnits (code : Nat) : List Char :=
  if code < 0x10000 then jsonUnit code
  else jsonUnit (0xd800 + (code - 0x10000) / 0x400)
    ++ jsonUnit (0xdc00 + (code - 0x10000) % 0x400)

def jsonChar (c : Char) : List Char :=
  if c = '"' ∨ c = '\\' then ['\\', c]
  else if c = '\n' then ['\\', 'n']
  else if c = '\r' then ['\\', 'r']
  else if c = '\t' then ['\\', 't']
  else if c = '\x08' then ['\\', 'b']
  else if c = '\x0c' then ['\\', 'f']
  else if 0x20 ≤ c.toNat ∧ c.toNat ≤ 0x7e then [c]
  else jsonUnits c.toNat

def jsonString (text : List Char) : List Char := '"' :: text.flatMap jsonChar ++ ['"']

mutual

def jsonChars : Value → List Char
  | .null => "null".toList
  | .bool b => if b then "true".toList else "false".toList
  | .int n => Numeral.signed n
  | .decimal negative magnitude => decimalChars negative magnitude
  | .infinite negative => if negative then "-Infinity".toList else "Infinity".toList
  | .notANumber => "NaN".toList
  | .text s => jsonString s.toList
  | .list items => '[' :: jsonItems items ++ [']']
  | .object fields => '\x7b' :: jsonEntries fields ++ ['\x7d']

def jsonItems : List Value → List Char
  | [] => []
  | [item] => jsonChars item
  | item :: next :: rest => jsonChars item ++ ", ".toList ++ jsonItems (next :: rest)

def jsonEntries : List (String × Value) → List Char
  | [] => []
  | [(name, value)] => jsonString name.toList ++ ": ".toList ++ jsonChars value
  | (name, value) :: next :: rest =>
      jsonString name.toList ++ ": ".toList ++ jsonChars value ++ ", ".toList
        ++ jsonEntries (next :: rest)

end

def json (value : Value) : String := String.ofList (jsonChars value)

/-- The entries of an object on lines of their own, two spaces deep. -/
def jsonLineEntries : Fields → List Char
  | [] => []
  | [(name, value)] => "\n  ".toList ++ jsonString name.toList ++ ": ".toList ++ jsonChars value
  | (name, value) :: next :: rest =>
      "\n  ".toList ++ jsonString name.toList ++ ": ".toList ++ jsonChars value
        ++ ',' :: jsonLineEntries (next :: rest)

def jsonLines (fields : Fields) : String :=
  String.ofList ('\x7b' :: jsonLineEntries fields ++ ['\n', '\x7d'])

end VersionGate.Value
