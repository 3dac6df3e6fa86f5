import VersionGate.Text.Pattern
import VersionGate.Version.Identifier

/-! The form of a version text as a pattern. Its alternatives overlap: a pre-release identifier that
starts like a number may go on as a word, and a hyphen is the mark in front of the identifiers as
well as a character of theirs. -/
namespace VersionGate.Version

open Text (Pattern)

inductive Field where
  | major | minor | patch | prerelease | build
deriving DecidableEq, Repr

namespace Form

def digit : Pattern Field := .character Char.isDigit

def positiveDigit : Pattern Field := .character fun c => c.isDigit && c != '0'

def letterOrHyphen : Pattern Field := .character fun c => c.isAlpha || c == '-'

def identifierCharacter : Pattern Field := .character Identifier.isIdentifierChar

/-- No leading zero, except that zero itself is written so. -/
def numeral : Pattern Field :=
  .either (.exactly '0') (.sequence positiveDigit (.many digit))

/-- Digits followed by a letter or hyphen, and then anything that identifiers are made of. -/
def word : Pattern Field :=
  .sequence (.many digit) (.sequence letterOrHyphen (.many identifierCharacter))

def prereleaseIdentifier : Pattern Field :=
  .either (.exactly '0') (.either (.sequence positiveDigit (.many digit)) word)

def buildIdentifier : Pattern Field := .oneOrMore identifierCharacter

def dotted (item : Pattern Field) : Pattern Field :=
  .sequence item (.many (.sequence (.exactly '.') item))

def core : Pattern Field :=
  .sequence (.named .major numeral)
    (.sequence (.exactly '.')
      (.sequence (.named .minor numeral)
        (.sequence (.exactly '.') (.named .patch numeral))))

/-- A list of identifiers behind its mark, which may be missing as a whole. -/
def suffix (mark : Char) (field : Field) (item : Pattern Field) : Pattern Field :=
  .optional (.sequence (.exactly mark) (.named field (dotted item)))

def version : Pattern Field :=
  .sequence core
    (.sequence (suffix '-' .prerelease prereleaseIdentifier) (suffix '+' .build buildIdentifier))

end Form

end VersionGate.Version
