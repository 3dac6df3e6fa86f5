/-! Patterns over characters, with parts whose text is kept under a name. The search goes through a
text once from its start: of two alternatives it tries the first one first, and a repetition takes
another round before it stops. Whenever what follows cannot be completed it goes back to the last
choice, so the first completion in this order is the answer. -/
namespace VersionGate.Text

inductive Pattern (Name : Type) where
  | character (accepts : Char → Bool)
  | nothing
  | sequence (first second : Pattern Name)
  | either (first second : Pattern Name)
  | many (round : Pattern Name)
  | named (name : Name) (part : Pattern Name)

namespace Pattern
variable {Name : Type}

/-- The texts that named parts covered, in the order in which the parts ended. -/
abbrev Groups (Name : Type) := List (Name × List Char)

/-- What is made of the text that is left, with the parts that are named so far. -/
abbrev Search (Name : Type) := List Char → Groups Name → Option (Groups Name)

def exactly (c : Char) : Pattern Name := .character (· == c)

def oneOrMore (round : Pattern Name) : Pattern Name := .sequence round (.many round)

def optional (part : Pattern Name) : Pattern Name := .either part .nothing

/-- Goes on with `next` only where something of the text is used up. -/
def afterProgress (text : List Char) (next : Search Name) : Search Name := fun rest groups =>
  if rest.length < text.length then next rest groups else none

/-- Rounds that each cover something, at most as many as given, before what follows. -/
def rounds (round : Search Name → Search Name) (next : Search Name) : Nat → Search Name
  | 0 => next
  | left + 1 => fun text groups =>
      (round (afterProgress text (rounds round next left)) text groups).or (next text groups)

/-- Notes that a named part ends here, which started where `text` starts. -/
def closing (name : Name) (text : List Char) (next : Search Name) : Search Name :=
  fun rest groups => next rest (groups ++ [(name, text.take (text.length - rest.length))])

/-- Matches a beginning of the text and goes on with `next` behind it. -/
def search : Pattern Name → Search Name → Search Name
  | .character accepts, next => fun text groups =>
      match text with
      | c :: rest => if accepts c then next rest groups else none
      | [] => none
  | .nothing, next => next
  | .sequence first second, next => first.search (second.search next)
  | .either first second, next => fun text groups =>
      (first.search next text groups).or (second.search next text groups)
  | .many round, next => fun text => rounds round.search next text.length text
  | .named name part, next => fun text groups =>
      part.search (closing name text next) text groups

def atEnd : Search Name := fun rest groups => if rest.isEmpty then some groups else none

/-- The named parts of a text that the pattern matches from its start to its end. -/
def fullMatch (p : Pattern Name) (text : List Char) : Option (Groups Name) :=
  p.search atEnd text []

end Pattern

end VersionGate.Text
