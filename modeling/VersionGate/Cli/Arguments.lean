import VersionGate.Cli.UsageError
import VersionGate.Text.Pieces

/-! Arguments split into options and operands. A long option starts with two hyphens and has its
value behind an equals sign or in the next argument; short options share one hyphen, and the first
of them that takes a value has the rest of the word as its value, or the next argument. -/
namespace VersionGate.Cli

/-- An option of a command, the names it is given by, and whether it takes a value. -/
structure Flag (Opt : Type) where
  option : Opt
  names : List String
  takesValue : Bool

structure Given (Opt : Type) where
  option : Opt
  value : Option String := none

/-- An option at the end of a word, under the name it was given by, whose value is yet to come. -/
structure Awaiting (Opt : Type) where
  name : String
  option : Opt

/-- Options in the order given, and the arguments that are no options. -/
structure Arguments (Opt : Type) where
  given : List (Given Opt) := []
  operands : List String := []

namespace Arguments
variable {Opt : Type}

def isLong : List Char → Bool
  | '-' :: '-' :: _ => true
  | _ => false

def isOption : List Char → Bool
  | '-' :: _ :: _ => true
  | _ => false

def find? (flags : List (Flag Opt)) (long : Bool) (name : List Char) : Option (Flag Opt) :=
  flags.find? fun flag => isLong name == long && flag.names.contains (String.ofList name)

/-- The short options of a word, from the characters behind its hyphen. -/
def shortOptions (flags : List (Flag Opt)) :
    List Char → Except UsageError (List (Given Opt) × Option (Awaiting Opt))
  | [] => .ok ([], none)
  | c :: rest =>
      match find? flags false ['-', c] with
      | none => .error (.noSuchOption (String.ofList ['-', c]))
      | some flag =>
          if flag.takesValue then
            if rest.isEmpty then .ok ([], some ⟨String.ofList ['-', c], flag.option⟩)
            else .ok ([⟨flag.option, some (String.ofList rest)⟩], none)
          else match shortOptions flags rest with
            | .error e => .error e
            | .ok (given, awaiting) => .ok (⟨flag.option, none⟩ :: given, awaiting)

def wordOptions (flags : List (Flag Opt)) (word : List Char) :
    Except UsageError (List (Given Opt) × Option (Awaiting Opt)) :=
  match Text.cut '=' word with
  | (name, value) =>
      match find? flags true name with
      | some flag =>
          if flag.takesValue then
            match value with
            | some value => .ok ([⟨flag.option, some (String.ofList value)⟩], none)
            | none => .ok ([], some ⟨String.ofList name, flag.option⟩)
          else
            match value with
            | some _ => .error (.valueNotTaken (String.ofList name))
            | none => .ok ([⟨flag.option, none⟩], none)
      | none =>
          if isLong word then .error (.noSuchOption (String.ofList name))
          else shortOptions flags word.tail

/-- Scans the arguments behind an option that may await its value. Two hyphens end the options;
so does the first operand, unless options may follow operands. -/
def scan (flags : List (Flag Opt)) (mixed : Bool) :
    List String → Option (Awaiting Opt) → Except UsageError (Arguments Opt)
  | [], none => .ok {}
  | [], some awaiting => .error (.valueMissing awaiting.name)
  | value :: rest, some awaiting => do
      let others ← scan flags mixed rest none
      return { others with given := ⟨awaiting.option, some value⟩ :: others.given }
  | word :: rest, none =>
      if word = "--" then .ok { operands := rest }
      else if isOption word.toList then do
        let (given, awaiting) ← wordOptions flags word.toList
        let others ← scan flags mixed rest awaiting
        return { others with given := given ++ others.given }
      else if mixed then do
        let others ← scan flags mixed rest none
        return { others with operands := word :: others.operands }
      else .ok { operands := word :: rest }

/-- The value of an option that was given last. -/
def last? [BEq Opt] (given : List (Given Opt)) (option : Opt) : Option String :=
  (given.reverse.find? fun g => g.option == option).bind Given.value

end Arguments

end VersionGate.Cli
