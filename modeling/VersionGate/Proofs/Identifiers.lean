import VersionGate.Proofs.Parsing

/-! Reading a single identifier of a pre-release, for every text. A text is read if it is an
identifier of the grammar and, where it is a number, short enough; each other text has the one error
that says what is wrong with it. -/
namespace VersionGate.Identifier
open Version Version.Grammar

/-- One identifier of the grammar, and not too long if it is a number. -/
def Readable (text : String) : Prop :=
  PrereleaseIdentifier text.toList ∧ ((∀ c ∈ text.toList, Digit c) → text.toList.length ≤ 4300)

/-- What a text is read as, or why it is not. -/
inductive Reads (text : String) : Except Error Identifier → Prop where
  | empty : text = "" → Reads text (.error .empty)
  | characters : text ≠ "" → (∃ c ∈ text.toList, ¬ IdentifierCharacter c) →
      Reads text (.error (.characters text))
  | leadingZeroes : (∀ c ∈ text.toList, Digit c) → text.toList = '0' :: d :: rest →
      Reads text (.error (.leadingZeroes text))
  | tooLong : Numeric text.toList → 4300 < text.toList.length →
      Reads text (.error (.tooLong ⟨text.toList.length⟩))
  | identifier : Readable text → Reads text (.ok (identifierValue text.toList))

theorem parse_of_prereleaseIdentifier (identifier : PrereleaseIdentifier text.toList) :
    parse text = if Grammar.isNumeric text.toList && isTooLong text.toList
      then .error (.tooLong ⟨text.toList.length⟩) else .ok (identifierValue text.toList) := by
  rw [← parse_identifier identifier, String.ofList_toList]

theorem Reads.parse (reads : Reads text result) : parse text = result := by
  cases reads with
  | empty noText =>
    subst noText
    rfl
  | characters someText stranger =>
    obtain ⟨c, member, strange⟩ := stranger
    have notAll : text.toList.all isIdentifierChar = false := by
      rw [Bool.eq_false_iff]
      intro all
      exact strange (identifierCharacter_iff.mpr (List.all_eq_true.mp all c member))
    simp [Identifier.parse, someText, notAll]
  | leadingZeroes digits starts =>
    have allDigits : text.toList.all Char.isDigit = true := isNumeric_iff.mpr digits
    have allValid : text.toList.all isIdentifierChar = true :=
      List.all_eq_true.mpr fun c member => identifierCharacter_iff.mp (.inl (digits c member))
    rw [Identifier.parse, allValid, allDigits, starts]
    simp
  | tooLong numeric long =>
    have digits : Grammar.isNumeric text.toList = true := isNumeric_iff.mpr numeric.digits
    rw [parse_of_prereleaseIdentifier (.numeric numeric), digits, isTooLong, decide_eq_true long]
    rfl
  | identifier readable =>
    rw [parse_of_prereleaseIdentifier readable.1, if_neg]
    simpa [isNumeric_iff, isTooLong] using readable.2

theorem numeric_of_digits (someText : text ≠ []) (digits : ∀ c ∈ text, Digit c) :
    Numeric text ∨ ∃ d rest, text = '0' :: d :: rest := by
  cases text with
  | nil => contradiction
  | cons c rest =>
    obtain ⟨first, others⟩ := List.forall_mem_cons.mp digits
    by_cases zero : c = '0'
    · subst zero
      cases rest with
      | nil => exact .inl .zero
      | cons d rest => exact .inr ⟨d, rest, rfl⟩
    · exact .inl (.positive first zero others)

theorem reads_total (text : String) : ∃ result, Reads text result := by
  by_cases noText : text = ""
  · exact ⟨_, .empty noText⟩
  have someChars : text.toList ≠ [] := by simpa using noText
  by_cases stranger : ∃ c ∈ text.toList, ¬ IdentifierCharacter c
  · exact ⟨_, .characters noText stranger⟩
  have valid : ∀ c ∈ text.toList, IdentifierCharacter c := by simpa using stranger
  by_cases digits : ∀ c ∈ text.toList, Digit c
  · rcases numeric_of_digits someChars digits with numeric | ⟨d, rest, starts⟩
    · rcases Nat.lt_or_ge 4300 text.toList.length with long | short
      · exact ⟨_, .tooLong numeric long⟩
      · exact ⟨_, .identifier ⟨.numeric numeric, fun _ => short⟩⟩
    · exact ⟨_, .leadingZeroes digits starts⟩
  · have nondigit : ∃ c ∈ text.toList, ¬ Digit c := by simpa using digits
    exact ⟨_, .identifier ⟨.alphanumeric ⟨someChars, valid⟩ nondigit, (absurd · digits)⟩⟩

/-- A text has the one outcome whose rule applies. -/
theorem parse_eq_iff : parse text = result ↔ Reads text result := by
  refine ⟨fun outcome => ?_, Reads.parse⟩
  obtain ⟨other, reads⟩ := reads_total text
  rwa [← outcome, reads.parse]

theorem parse_eq_ok_iff : parse text = .ok identifier ↔
    Readable text ∧ identifier = identifierValue text.toList := by
  rw [parse_eq_iff]
  constructor
  · rintro ⟨⟩
    exact ⟨‹_›, rfl⟩
  · rintro ⟨readable, rfl⟩
    exact .identifier readable

end VersionGate.Identifier
