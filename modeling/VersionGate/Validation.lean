import VersionGate.Value.Literal

/-! Records made from loose fields. A field that holds no text where text is wanted, is absent where
it is required, or is not known at all is an issue; a record with issues is refused as a whole. -/
namespace VersionGate

inductive Issue.Kind where
  | missing | notText | unexpected | frozen
deriving DecidableEq, Repr

def Issue.Kind.code : Issue.Kind → String
  | .missing => "missing"
  | .notText => "string_type"
  | .unexpected => "extra_forbidden"
  | .frozen => "frozen_instance"

def Issue.Kind.message : Issue.Kind → String
  | .missing => "Field required"
  | .notText => "Input should be a valid string"
  | .unexpected => "Extra inputs are not permitted"
  | .frozen => "Instance is frozen"

structure Issue where
  field : String
  kind : Issue.Kind
  /-- What was found; where a field is missing, the whole record. -/
  input : Value
deriving Repr

namespace Issue

/-- The longest start of a text that takes no more than `room` bytes. -/
def fitting : (room : Nat) → List Char → List Char
  | _, [] => []
  | room, c :: rest => if c.utf8Size ≤ room then c :: fitting (room - c.utf8Size) rest else []

/-- A text of more than fifty bytes in its start and its end. -/
def abridged (text : List Char) : List Char :=
  if (String.ofList text).utf8ByteSize ≤ 50 then text
  else fitting 25 text ++ ['.', '.', '.'] ++ (fitting 24 text.reverse).reverse

def shownInput (input : Value) : String :=
  String.ofList (abridged
    (if input.isWritable then input.literalChars
    else ("<unprintable " ++ input.kindName ++ " object>").toList))

/-- A name with a dot in it would pass for two. -/
def shownField (field : String) : String :=
  if field.toList.contains '.' then "\x60" ++ field ++ "\x60" else field

def describe (issue : Issue) : String :=
  shownField issue.field ++ "\n  " ++ issue.kind.message ++ " [type=" ++ issue.kind.code
    ++ ", input_value=" ++ shownInput issue.input ++ ", input_type=" ++ issue.input.kindName ++ "]"

end Issue

/-- A refused record: the name of its kind, and what was wrong, in the order of its fields. -/
structure Invalid where
  record : String
  issues : List Issue
  /-- The address under which each kind of issue has a page of its own, if the text gives it. -/
  pages : Option String := none
deriving Repr

namespace Invalid

def headline (e : Invalid) : String :=
  Nat.repr e.issues.length
    ++ (if e.issues.length = 1 then " validation error" else " validation errors")
    ++ " for " ++ e.record

def describe (e : Invalid) (issue : Issue) : String :=
  "\n" ++ issue.describe ++ e.pages.elim "" fun pages =>
    "\n    For further information visit " ++ pages ++ issue.kind.code

def message (e : Invalid) : String := e.headline ++ String.join (e.issues.map e.describe)

end Invalid

namespace Fields

def requiredText (name : String) (fields : Fields) : Except Issue String :=
  match get? name fields with
  | some (.text s) => .ok s
  | some input => .error ⟨name, .notText, input⟩
  | none => .error ⟨name, .missing, .object fields⟩

/-- An absent field and an explicit null are both no text. -/
def optionalText (name : String) (fields : Fields) : Except Issue (Option String) :=
  match get? name fields with
  | some (.text s) => .ok (some s)
  | some .null | none => .ok none
  | some input => .error ⟨name, .notText, input⟩

def unexpected (known : List String) (fields : Fields) : List Issue :=
  (fields.filter fun entry => !known.contains entry.1).map fun entry =>
    ⟨entry.1, .unexpected, entry.2⟩

end Fields

def Issue.of? {α : Type} : Except Issue α → List Issue
  | .ok _ => []
  | .error issue => [issue]

end VersionGate
