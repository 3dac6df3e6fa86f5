import VersionGate.Order.Relation
import VersionGate.Text.Numeral
import VersionGate.Text.Quoted

/-! One dot-separated identifier of a pre-release list: a number if all its characters are digits,
a word otherwise. Numbers come before words; numbers compare by value, words by code point. -/
namespace VersionGate

inductive Identifier where
  | number (n : Int)
  | word (s : String)
deriving DecidableEq, Repr

namespace Identifier

inductive Error where
  | empty
  | characters (text : String)
  | leadingZeroes (text : String)
  | tooLong (e : Numeral.TooLong)
deriving DecidableEq, Repr

def Error.message : Error → String
  | .empty => "Pre-release identifier cannot be empty"
  | .characters text => "Invalid character(s) in pre-release identifier " ++ Text.quoted text
  | .leadingZeroes text =>
      "Numeric pre-release identifier must not have leading zeroes " ++ Text.quoted text
  | .tooLong e => e.message

def isIdentifierChar (c : Char) : Bool := c.isAlphanum || c == '-'

def parse (text : String) : Except Error Identifier :=
  let chars := text.toList
  if chars.isEmpty then .error .empty
  else if !chars.all isIdentifierChar then .error (.characters text)
  else if !chars.all Char.isDigit then .ok (.word text)
  else if 1 < chars.length ∧ chars.head? = some '0' then .error (.leadingZeroes text)
  else match Numeral.read chars with
    | .ok n => .ok (.number n)
    | .error e => .error (.tooLong e)

def chars : Identifier → List Char
  | .number n => Numeral.signed n
  | .word s => s.toList

def render (identifier : Identifier) : String := String.ofList identifier.chars

def isWritable : Identifier → Bool
  | .number n => Numeral.isWritable n
  | .word _ => true

def print (identifier : Identifier) : Except Numeral.TooLarge String :=
  if identifier.isWritable then .ok identifier.render else .error {}

def shownValue : Identifier → String
  | .number n => String.ofList (Numeral.signed n)
  | .word s => Text.quoted s

def described (identifier : Identifier) : String :=
  "PrereleaseIdentifier(value=" ++ identifier.shownValue ++ ")"

def describe (identifier : Identifier) : Except Numeral.TooLarge String :=
  if identifier.isWritable then .ok identifier.described else .error {}

def isNumeric : Identifier → Bool
  | .number _ => true
  | .word _ => false

def precedes : Identifier → Identifier → Bool
  | .number a, .number b => a < b
  | .number _, .word _ => true
  | .word _, .number _ => false
  | .word a, .word b => a < b

def relate (relation : Relation) (a b : Identifier) : Bool :=
  relation.holds (a.precedes b) (a == b)

def kindName : String := "PrereleaseIdentifier"

end Identifier

end VersionGate
