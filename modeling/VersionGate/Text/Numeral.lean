/-! Decimal numerals: ASCII digits, no sign, no leading zero. A numeral longer than `limit` is
neither read nor written; every natural number has exactly one numeral. -/
namespace VersionGate.Numeral

def limit : Nat := 4300

/-- A numeral of `digits` digits, too many to be read. -/
structure TooLong where
  digits : Nat
deriving DecidableEq, Repr

def TooLong.message (e : TooLong) : String :=
  "Exceeds the limit (" ++ Nat.repr limit ++ " digits) for integer string conversion: value has "
    ++ Nat.repr e.digits ++ " digits; use sys.set_int_max_str_digits() to increase the limit"

/-- A number with too many digits to be written. -/
structure TooLarge where
deriving DecidableEq, Repr

def TooLarge.message (_ : TooLarge) : String :=
  "Exceeds the limit (" ++ Nat.repr limit ++ " digits) for integer string conversion; "
    ++ "use sys.set_int_max_str_digits() to increase the limit"

def canonical : List Char → Bool
  | [] => false
  | ['0'] => true
  | '0' :: _ :: _ => false
  | digits => digits.all Char.isDigit

def write (n : Nat) : List Char := Nat.toDigits 10 n

def read (digits : List Char) : Except TooLong Nat :=
  if limit < digits.length then .error ⟨digits.length⟩ else .ok (Nat.ofDigitChars 10 digits 0)

def signed : Int → List Char
  | .ofNat n => write n
  | .negSucc n => '-' :: write (n + 1)

/-- Whether the numeral of an integer is within the limit, its sign not counted. -/
def isWritable (n : Int) : Bool := (write n.natAbs).length ≤ limit

end VersionGate.Numeral
