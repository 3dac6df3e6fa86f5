import VersionGate.Decimal

/-! Values of fields: what a log record, a span attribute or a decoded document may hold. -/
namespace VersionGate

inductive Value where
  | null
  | bool (b : Bool)
  | int (n : Int)
  /-- A number that is no integer by its form, with its sign, which a zero may have as well. -/
  | decimal (negative : Bool) (magnitude : Decimal)
  /-- A number beyond all that are kept. -/
  | infinite (negative : Bool)
  | notANumber
  | text (s : String)
  | list (items : List Value)
  | object (fields : List (String × Value))
deriving Repr, BEq

/-- Fields in the order in which they were given, each name once. -/
abbrev Fields := List (String × Value)

namespace Value

/-- Nothing, false, zero and what is empty count as not set. -/
def isUnset : Value → Bool
  | .null => true
  | .bool b => !b
  | .int n => n == 0
  | .decimal _ magnitude => magnitude.digits == 0
  | .infinite _ | .notANumber => false
  | .text s => s.isEmpty
  | .list items => items.isEmpty
  | .object fields => fields.isEmpty

def ofText? : Option String → Value
  | none => .null
  | some s => .text s

/-- The name of the kind of value, as messages about operands give it. -/
def kindName : Value → String
  | .null => "NoneType"
  | .bool _ => "bool"
  | .int _ => "int"
  | .decimal _ _ | .infinite _ | .notANumber => "float"
  | .text _ => "str"
  | .list _ => "list"
  | .object _ => "dict"

end Value

namespace Fields

def get? (name : String) : Fields → Option Value
  | [] => none
  | (key, value) :: rest => if key = name then some value else get? name rest

/-- Overwrites the value of a name in place, or adds the name at the end. -/
def put (name : String) (value : Value) : Fields → Fields
  | [] => [(name, value)]
  | (key, old) :: rest =>
      if key = name then (key, value) :: rest else (key, old) :: put name value rest

/-- Adds a name at the end unless it is there already. -/
def putNew (fields : Fields) (entry : String × Value) : Fields :=
  match get? entry.1 fields with
  | some _ => fields
  | none => fields ++ [entry]

/-- Puts every entry of `more` in turn, so that later entries win. -/
def putAll (fields more : Fields) : Fields :=
  more.foldl (fun known entry => put entry.1 entry.2 known) fields

theorem get?_put_self (name : String) (value : Value) (fields : Fields) :
    get? name (put name value fields) = some value := by
  induction fields with
  | nil => simp [put, get?]
  | cons entry rest ih =>
    by_cases same : entry.1 = name <;> simp [put, get?, same, ih]

theorem get?_put_of_ne {name other : String} (apart : other ≠ name) (value : Value)
    (fields : Fields) : get? other (put name value fields) = get? other fields := by
  induction fields with
  | nil => simp [put, get?, apart.symm]
  | cons entry rest ih =>
    by_cases same : entry.1 = name
    · have different : entry.1 ≠ other := fun h => apart (h.symm.trans same)
      simp [put, get?, same, apart.symm]
    · rw [put, if_neg same]
      simp only [get?, ih]

end Fields

end VersionGate
