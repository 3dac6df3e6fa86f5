import VersionGate.Value.Json

/-! Values read from JSON text. Every text that `json` or `jsonLines` writes is read back, as is any
other document whose strings are well-formed Unicode. -/
namespace VersionGate.Value

def isBlank (c : Char) : Bool := c == ' ' || c == '\t' || c == '\n' || c == '\r'

def skipBlanks (text : List Char) : List Char := text.dropWhile isBlank

def hexValue? (c : Char) : Option Nat :=
  if c.isDigit then some (c.toNat - 48)
  else if 'a' ≤ c ∧ c ≤ 'f' then some (c.toNat - 87)
  else if 'A' ≤ c ∧ c ≤ 'F' then some (c.toNat - 55)
  else none

/-- The code unit that four hexadecimal digits write. -/
def unit? (a b c d : Char) : Option Nat := do
  return (((← hexValue? a) * 16 + (← hexValue? b)) * 16 + (← hexValue? c)) * 16 + (← hexValue? d)

/-- The character that a letter behind a backslash stands for. -/
def escaped? (c : Char) : Option Char :=
  if c = '"' ∨ c = '\\' ∨ c = '/' then some c
  else if c = 'n' then some '\n'
  else if c = 'r' then some '\r'
  else if c = 't' then some '\t'
  else if c = 'b' then some '\x08'
  else if c = 'f' then some '\x0c'
  else none

def before (code : Nat) (read : Option (List Nat × List Char)) : Option (List Nat × List Char) :=
  read.map fun (codes, rest) => (code :: codes, rest)

/-- The codes of a string up to its closing quote: code points of characters that stand for
themselves, code units of those that are escaped. -/
def stringCodes : List Char → Option (List Nat × List Char)
  | [] => none
  | c :: rest =>
      if c = '"' then some ([], rest)
      else if c = '\\' then
        match rest with
        | 'u' :: p :: q :: r :: s :: rest =>
            match unit? p q r s with
            | some unit => before unit (stringCodes rest)
            | none => none
        | e :: rest =>
            match escaped? e with
            | some c => before c.toNat (stringCodes rest)
            | none => none
        | [] => none
      else if c.toNat < 0x20 then none
      else before c.toNat (stringCodes rest)

def isHighSurrogate (code : Nat) : Bool := 0xd800 ≤ code && code < 0xdc00

def isLowSurrogate (code : Nat) : Bool := 0xdc00 ≤ code && code < 0xe000

def character? (code : Nat) : Option Char :=
  if h : code.isValidChar then some (Char.ofNatAux code h) else none

/-- The characters of codes, two surrogates in the right order making one. -/
def characters? : List Nat → Option (List Char)
  | [] => some []
  | [code] => (character? code).map fun c => [c]
  | first :: second :: rest =>
      if isHighSurrogate first && isLowSurrogate second then do
        let c ← character? (0x10000 + (first - 0xd800) * 0x400 + (second - 0xdc00))
        let others ← characters? rest
        return c :: others
      else do
        let c ← character? first
        let others ← characters? (second :: rest)
        return c :: others

/-- A string, from behind its opening quote. -/
def readString (text : List Char) : Option (String × List Char) := do
  let (codes, rest) ← stringCodes text
  let chars ← characters? codes
  return (String.ofList chars, rest)

/-- The digits of an exponent with its sign, behind an `e`. -/
def readExponent (text : List Char) : Option (Int × List Char) :=
  let (negative, digits) := match text with
    | '-' :: rest => (true, rest)
    | '+' :: rest => (false, rest)
    | _ => (false, text)
  let size := digits.takeWhile Char.isDigit
  if size.isEmpty then none
  else
    let n : Int := Nat.ofDigitChars 10 size 0
    some (if negative then -n else n, digits.dropWhile Char.isDigit)

/-- The number `digits * 10 ^ exponent` with its sign, to the precision that is kept. -/
def ofDecimal (negative : Bool) (digits : Nat) (exponent : Int) : Value :=
  match Decimal.settle? ⟨digits, exponent⟩ with
  | some magnitude => .decimal negative magnitude
  | none => .infinite negative

/-- A number behind its sign; it is an integer if it has neither a fraction nor an exponent. -/
def readUnsigned (negative : Bool) (text : List Char) : Option (Value × List Char) :=
  let whole := text.takeWhile Char.isDigit
  if !Numeral.canonical whole then none
  else
    let (fraction, rest) := match text.dropWhile Char.isDigit with
      | '.' :: rest => (some (rest.takeWhile Char.isDigit), rest.dropWhile Char.isDigit)
      | rest => (none, rest)
    let places := (fraction.getD []).length
    let digits := Nat.ofDigitChars 10 (whole ++ fraction.getD []) 0
    let plain : Value :=
      if fraction.isSome then ofDecimal negative digits (-(places : Int))
      else .int (if negative then -(digits : Int) else digits)
    if fraction == some [] then none
    else match rest with
      | c :: more =>
          if c = 'e' ∨ c = 'E' then do
            let (exponent, rest) ← readExponent more
            return (ofDecimal negative digits (exponent - places), rest)
          else some (plain, rest)
      | [] => some (plain, [])

def readNumber (text : List Char) : Option (Value × List Char) :=
  let (negative, unsigned) := match text with
    | '-' :: rest => (true, rest)
    | _ => (false, text)
  match unsigned with
  | 'I' :: 'n' :: 'f' :: 'i' :: 'n' :: 'i' :: 't' :: 'y' :: rest => some (.infinite negative, rest)
  | _ => readUnsigned negative unsigned

def readWord (text : List Char) : Option (Value × List Char) :=
  match text with
  | 'n' :: 'u' :: 'l' :: 'l' :: rest => some (.null, rest)
  | 't' :: 'r' :: 'u' :: 'e' :: rest => some (.bool true, rest)
  | 'f' :: 'a' :: 'l' :: 's' :: 'e' :: rest => some (.bool false, rest)
  | 'N' :: 'a' :: 'N' :: rest => some (.notANumber, rest)
  | _ => readNumber text

mutual

/-- One value at the start of a text, of nesting and length below `bound`. -/
def readValue : (bound : Nat) → List Char → Option (Value × List Char)
  | 0, _ => none
  | bound + 1, chars =>
      match skipBlanks chars with
      | '"' :: rest => (readString rest).map fun (s, rest) => (.text s, rest)
      | '[' :: rest =>
          match skipBlanks rest with
          | ']' :: rest => some (.list [], rest)
          | _ => (readItems bound rest).map fun (items, rest) => (.list items, rest)
      | '\x7b' :: rest =>
          match skipBlanks rest with
          | '\x7d' :: rest => some (.object [], rest)
          | _ => (readEntries bound rest).map fun (entries, rest) => (.object entries, rest)
      | rest => readWord rest

/-- One item or more, up to the closing bracket. -/
def readItems : (bound : Nat) → List Char → Option (List Value × List Char)
  | 0, _ => none
  | bound + 1, chars => do
      let (item, rest) ← readValue bound chars
      match skipBlanks rest with
      | ',' :: rest =>
          let (items, rest) ← readItems bound rest
          return (item :: items, rest)
      | ']' :: rest => return ([item], rest)
      | _ => none

/-- One entry or more, up to the closing brace. -/
def readEntries : (bound : Nat) → List Char → Option (Fields × List Char)
  | 0, _ => none
  | bound + 1, chars =>
      match skipBlanks chars with
      | '"' :: rest => do
          let (name, rest) ← readString rest
          match skipBlanks rest with
          | ':' :: rest =>
              let (value, rest) ← readValue bound rest
              match skipBlanks rest with
              | ',' :: rest =>
                  let (entries, rest) ← readEntries bound rest
                  return ((name, value) :: entries, rest)
              | '\x7d' :: rest => return ([(name, value)], rest)
              | _ => none
          | _ => none
      | _ => none

end

/-- The value that a text is written for, if it is JSON and nothing else. -/
def ofJson? (text : String) : Option Value := do
  let (value, rest) ← readValue (text.length + 1) text.toList
  if (skipBlanks rest).isEmpty then some value else none

end VersionGate.Value
