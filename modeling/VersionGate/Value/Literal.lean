import VersionGate.Value
import VersionGate.Text.Numeral
import VersionGate.Text.Quoted

/-! Values as console lines show them: texts quoted, `None`, `True` and `False` for the absent and
the boolean, brackets around lists and braces around objects. A value that holds an integer beyond
the limit of digits has no text, neither here nor as JSON: who shows a value that may hold one
refuses it by `isWritable` first. -/
namespace VersionGate.Value

/-- Digits with a decimal point `point` places from the left, at least one digit on each side. -/
def positional (digits : List Char) (point : Int) : List Char :=
  if point ≤ 0 then
    '0' :: '.' :: List.replicate point.natAbs '0' ++ digits
  else
    let whole := digits.take point.natAbs
    let fraction := digits.drop point.natAbs
    whole ++ List.replicate (point.natAbs - whole.length) '0' ++ '.' ::
      (if fraction.isEmpty then ['0'] else fraction)

/-- One digit, the others behind a point, and an exponent of two digits or more. -/
def scientific (digits : List Char) (exponent : Int) : List Char :=
  let scale := Numeral.write exponent.natAbs
  digits.take 1 ++ (if digits.length ≤ 1 then [] else '.' :: digits.drop 1)
    ++ 'e' :: (if exponent < 0 then '-' else '+')
    :: List.replicate (2 - scale.length) '0' ++ scale

/-- A decimal is written without needless zeros: positionally from a ten-thousandth up to below
ten to the sixteenth, with an exponent beyond. -/
def decimalChars (negative : Bool) (magnitude : Decimal) : List Char :=
  let all := Numeral.write magnitude.digits
  let digits := (all.reverse.dropWhile (· == '0')).reverse
  let sign := if negative then ['-'] else []
  let point : Int := all.length + magnitude.exponent
  if digits.isEmpty then sign ++ ['0', '.', '0']
  else if -4 < point ∧ point ≤ 16 then sign ++ positional digits point
  else sign ++ scientific digits (point - 1)

mutual

def literalChars : Value → List Char
  | .null => "None".toList
  | .bool b => if b then "True".toList else "False".toList
  | .int n => Numeral.signed n
  | .decimal negative magnitude => decimalChars negative magnitude
  | .infinite negative => if negative then "-inf".toList else "inf".toList
  | .notANumber => "nan".toList
  | .text s => Text.quotedChars s.toList
  | .list items => '[' :: literalItems items ++ [']']
  | .object fields => '\x7b' :: literalEntries fields ++ ['\x7d']

def literalItems : List Value → List Char
  | [] => []
  | [item] => literalChars item
  | item :: next :: rest => literalChars item ++ ", ".toList ++ literalItems (next :: rest)

def literalEntries : List (String × Value) → List Char
  | [] => []
  | [(name, value)] => Text.quotedChars name.toList ++ ": ".toList ++ literalChars value
  | (name, value) :: next :: rest =>
      Text.quotedChars name.toList ++ ": ".toList ++ literalChars value ++ ", ".toList
        ++ literalEntries (next :: rest)

end

mutual

def isWritable : Value → Bool
  | .int n => Numeral.isWritable n
  | .list items => areWritable items
  | .object fields => hasWritable fields
  | _ => true

def areWritable : List Value → Bool
  | [] => true
  | item :: rest => isWritable item && areWritable rest

def hasWritable : List (String × Value) → Bool
  | [] => true
  | (_, value) :: rest => isWritable value && hasWritable rest

end

def literal (value : Value) : String := String.ofList (literalChars value)

def shown : Value → String
  | .text s => s
  | value => literal value

end VersionGate.Value
