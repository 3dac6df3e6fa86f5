import VersionGate.Proofs.Form

/-! Reading a version text, for every text: the texts that are read are those of the grammar, and
of these only the ones whose numbers are all short enough. -/
namespace VersionGate.Version.Grammar

def isNumeric (word : List Char) : Bool := word.all Char.isDigit

/-- The parts of a text that get a number for a value, from left to right. -/
def numericParts (o : Outline) : List (List Char) :=
  [o.major, o.minor, o.patch] ++ o.prerelease.filter isNumeric

def isTooLong (part : List Char) : Bool := 4300 < part.length

/-- Digits alone are a number, anything else is a word. -/
def identifierValue (word : List Char) : Identifier :=
  if isNumeric word then .number (Nat.ofDigitChars 10 word 0) else .word (String.ofList word)

def value (o : Outline) : Version :=
  { major := Nat.ofDigitChars 10 o.major 0
    minor := Nat.ofDigitChars 10 o.minor 0
    patch := Nat.ofDigitChars 10 o.patch 0
    prerelease := o.prerelease.map identifierValue
    build := o.build.map String.ofList }

def tooLongMessage (digits : Nat) : String :=
  "Exceeds the limit (4300 digits) for integer string conversion: value has " ++ Nat.repr digits
    ++ " digits; use sys.set_int_max_str_digits() to increase the limit"

/-- What a text is read as, or the message of why it is not. -/
inductive Reads (text : String) : Except String Version → Prop where
  | empty : text = "" → Reads text (.error "Version string empty")
  | malformed : text ≠ "" → (∀ o, ¬ Derives text.toList o) →
      Reads text (.error ("Invalid semantic version " ++ Text.quoted text))
  | tooLong : Derives text.toList o → (numericParts o).find? isTooLong = some part →
      Reads text (.error (tooLongMessage part.length))
  | version : Derives text.toList o → (∀ part ∈ numericParts o, part.length ≤ 4300) →
      Reads text (.ok (value o))

theorem read_eq (digits : List Char) : Numeral.read digits =
    if isTooLong digits then .error ⟨digits.length⟩ else .ok (Nat.ofDigitChars 10 digits 0) := by
  simp only [Numeral.read, isTooLong, decide_eq_true_eq]
  rfl

theorem number_eq (digits : List Char) : number digits =
    if isTooLong digits then .error (.tooLong ⟨digits.length⟩)
    else .ok (Nat.ofDigitChars 10 digits 0) := by
  rw [number, read_eq]
  cases isTooLong digits <;> rfl

theorem isNumeric_iff : isNumeric word = true ↔ ∀ c ∈ word, Digit c := by
  simp [isNumeric, digit_iff]

theorem PrereleaseIdentifier.numeric_of_digits (identifier : PrereleaseIdentifier word)
    (digits : isNumeric word = true) : Numeric word := by
  cases identifier with
  | numeric numeric => exact numeric
  | alphanumeric _ nondigit =>
    obtain ⟨c, member, stop⟩ := nondigit
    exact absurd (isNumeric_iff.mp digits c member) stop

theorem Numeric.no_leading_zero (numeric : Numeric word) :
    ¬ (1 < word.length ∧ word.head? = some '0') := by
  cases numeric with
  | zero => simp
  | positive _ nonzero _ => simp [nonzero]

/-- Of the errors about a single identifier only the one about too many digits is left. -/
theorem parse_identifier (identifier : PrereleaseIdentifier word) :
    Identifier.parse (String.ofList word) =
      if isNumeric word && isTooLong word then .error (.tooLong ⟨word.length⟩)
      else .ok (identifierValue word) := by
  obtain ⟨someText, characters⟩ := identifier.buildIdentifier
  have valid : word.all Identifier.isIdentifierChar = true :=
    List.all_eq_true.mpr fun c member => identifierCharacter_iff.mp (characters c member)
  have notEmpty : word.isEmpty = false := List.isEmpty_eq_false_iff.mpr someText
  simp only [Identifier.parse, String.toList_ofList, notEmpty, valid, Bool.false_eq_true, if_false,
    Bool.not_true]
  change (if !isNumeric word then _ else _) = _
  cases digits : isNumeric word with
  | false => simp [identifierValue, digits]
  | true =>
    have numeric := identifier.numeric_of_digits digits
    rw [Bool.not_true, if_neg Bool.false_ne_true, if_neg numeric.no_leading_zero, read_eq,
      Bool.true_and, identifierValue, if_pos digits]
    cases isTooLong word <;> rfl

theorem identifiers_eq {words : List (List Char)} (valid : ∀ word ∈ words, PrereleaseIdentifier word) :
    identifiers (words.map String.ofList) =
      match (words.filter isNumeric).find? isTooLong with
      | some part => .error (.identifier (.tooLong ⟨part.length⟩))
      | none => .ok (words.map identifierValue) := by
  induction words with
  | nil => rfl
  | cons word rest ih =>
    obtain ⟨first, others⟩ := List.forall_mem_cons.mp valid
    rw [List.map_cons, identifiers, parse_identifier first]
    cases digits : isNumeric word with
    | false =>
      rw [Bool.false_and, if_neg Bool.false_ne_true, List.filter_cons_of_neg (by simp [digits])]
      simp only [ih others]
      cases (rest.filter isNumeric).find? isTooLong <;> rfl
    | true =>
      rw [Bool.true_and, List.filter_cons_of_pos digits, List.find?_cons]
      cases isTooLong word with
      | true => rfl
      | false =>
        simp only [Bool.false_eq_true, if_false, ih others]
        cases (rest.filter isNumeric).find? isTooLong <;> rfl

/-- An outline of the grammar has its value unless a number in it is too long, and the first such
number is the error. -/
theorem version_eq (valid : WellFormed o) : o.version =
    if isTooLong o.major then .error (.tooLong ⟨o.major.length⟩)
    else if isTooLong o.minor then .error (.tooLong ⟨o.minor.length⟩)
    else if isTooLong o.patch then .error (.tooLong ⟨o.patch.length⟩)
    else match (o.prerelease.filter isNumeric).find? isTooLong with
      | some part => .error (.identifier (.tooLong ⟨part.length⟩))
      | none => .ok (value o) := by
  rw [Outline.version, number_eq, number_eq, number_eq, identifiers_eq valid.prerelease]
  cases isTooLong o.major
  case true => rfl
  cases isTooLong o.minor
  case true => rfl
  cases isTooLong o.patch
  case true => rfl
  cases (o.prerelease.filter isNumeric).find? isTooLong with
  | some part => rfl
  | none => exact ofParts_natCast ..

theorem version_error (valid : WellFormed o) (failed : o.version = .error e) :
    ∃ digits, e = .tooLong ⟨digits⟩ ∨ e = .identifier (.tooLong ⟨digits⟩) := by
  rw [version_eq valid] at failed
  repeat' split at failed
  · exact ⟨_, .inl (Except.error.inj failed).symm⟩
  · exact ⟨_, .inl (Except.error.inj failed).symm⟩
  · exact ⟨_, .inl (Except.error.inj failed).symm⟩
  · exact ⟨_, .inr (Except.error.inj failed).symm⟩
  · contradiction

theorem find_numericParts (o : Outline) : (numericParts o).find? isTooLong =
    if isTooLong o.major then some o.major
    else if isTooLong o.minor then some o.minor
    else if isTooLong o.patch then some o.patch
    else (o.prerelease.filter isNumeric).find? isTooLong := by
  simp only [numericParts, List.cons_append, List.nil_append, List.find?_cons]
  cases isTooLong o.major <;> cases isTooLong o.minor <;> cases isTooLong o.patch <;> rfl

theorem tooLong_message (digits : Nat) :
    Numeral.TooLong.message ⟨digits⟩ = tooLongMessage digits := by
  have opening : "Exceeds the limit (" ++ Nat.repr Numeral.limit
      ++ " digits) for integer string conversion: value has " =
      "Exceeds the limit (4300 digits) for integer string conversion: value has " := by rfl
  unfold Numeral.TooLong.message tooLongMessage
  congr 2

theorem version_messages (valid : WellFormed o) : o.version.mapError Error.message =
    match (numericParts o).find? isTooLong with
    | some part => .error (tooLongMessage part.length)
    | none => .ok (value o) := by
  rw [version_eq valid, find_numericParts]
  cases isTooLong o.major
  case true => exact congrArg Except.error (tooLong_message _)
  cases isTooLong o.minor
  case true => exact congrArg Except.error (tooLong_message _)
  cases isTooLong o.patch
  case true => exact congrArg Except.error (tooLong_message _)
  cases (o.prerelease.filter isNumeric).find? isTooLong with
  | some part => exact congrArg Except.error (tooLong_message _)
  | none => rfl

theorem Derives.ne_nil (derives : Derives text o) : text ≠ [] := by
  obtain ⟨valid, rfl⟩ := derives_iff.mp derives
  simp [Outline.text]

theorem parse_of_derives (derives : Derives text.toList o) : parse text = o.version := by
  have someText : ¬ text.isEmpty = true := by
    rw [String.isEmpty_iff]
    rintro rfl
    exact derives.ne_nil rfl
  obtain ⟨groups, matched, rfl⟩ := Option.map_eq_some_iff.mp (Form.ofGroups_fullMatch.mpr derives)
  rw [parse, if_neg someText, matched]

theorem parse_of_not_derives (someText : text ≠ "") (none : ∀ o, ¬ Derives text.toList o) :
    parse text = .error (.malformed text) := by
  have notEmpty : ¬ text.isEmpty = true := by rwa [String.isEmpty_iff]
  rw [parse, if_neg notEmpty]
  cases matched : Form.version.fullMatch text.toList with
  | none => rfl
  | some groups =>
    exact absurd (Form.ofGroups_fullMatch.mp (by rw [matched]; rfl)) (none (Outline.ofGroups groups))

theorem Reads.parse (reads : Reads text result) : (parse text).mapError Error.message = result := by
  cases reads with
  | empty noText =>
    subst noText
    rfl
  | malformed someText none =>
    rw [parse_of_not_derives someText none]
    rfl
  | tooLong derives first =>
    rw [parse_of_derives derives, version_messages (derives_iff.mp derives).1, first]
  | version derives short =>
    have none : (numericParts _).find? isTooLong = none :=
      List.find?_eq_none.mpr fun part member => by simpa [isTooLong] using short part member
    rw [parse_of_derives derives, version_messages (derives_iff.mp derives).1, none]

theorem reads_total (text : String) : ∃ result, Reads text result := by
  by_cases noText : text = ""
  · exact ⟨_, .empty noText⟩
  by_cases derivable : ∃ o, Derives text.toList o
  · obtain ⟨o, derives⟩ := derivable
    cases first : (numericParts o).find? isTooLong with
    | some part => exact ⟨_, .tooLong derives first⟩
    | none =>
      have short := List.find?_eq_none.mp first
      exact ⟨_, .version derives fun part member => by simpa [isTooLong] using short part member⟩
  · exact ⟨_, .malformed noText (not_exists.mp derivable)⟩

theorem parse_eq_ok_iff : parse text = .ok v ↔ ∃ o, Derives text.toList o ∧
    (∀ part ∈ numericParts o, part.length ≤ 4300) ∧ v = value o := by
  constructor
  · intro read
    obtain ⟨result, reads⟩ := reads_total text
    have outcome := reads.parse
    rw [read] at outcome
    cases reads with
    | version derives short => exact ⟨_, derives, short, Except.ok.inj outcome⟩
    | _ => contradiction
  · rintro ⟨o, derives, short, rfl⟩
    have outcome := (Reads.version derives short).parse
    cases read : parse text with
    | error e => rw [read] at outcome; contradiction
    | ok v => rw [read] at outcome; exact congrArg _ (Except.ok.inj outcome)

theorem Derives.exists_digit (derives : Derives text o) : ∃ c rest, text = c :: rest ∧ Digit c := by
  obtain ⟨valid, rfl⟩ := derives_iff.mp derives
  have digits := valid.major.digits
  cases major : o.major with
  | nil => exact absurd major valid.major.ne_nil
  | cons c rest =>
    rw [major] at digits
    exact ⟨c, _, by rw [Outline.text, major]; rfl, digits c List.mem_cons_self⟩

/-- A text of the grammar starts with a digit, so there is no `v` to take off. -/
theorem Derives.normalize_eq (derives : Derives text.toList o) : normalize text = text := by
  obtain ⟨c, rest, chars, digit⟩ := derives.exists_digit
  rw [normalize]
  split
  · rename_i starts
    rw [chars] at starts
    obtain rfl := (List.cons.inj starts).1
    exact absurd digit (by decide)
  · rfl

theorem normalize_of_parse (accepted : parse text = .ok v) : normalize text = text := by
  obtain ⟨o, derives, _⟩ := parse_eq_ok_iff.mp accepted
  exact derives.normalize_eq

theorem read_of_parse (accepted : parse text = .ok v) : Version.read text = .ok v := by
  rw [Version.read, normalize_of_parse accepted, accepted]

/-- Reading accepts the grammar and nothing else, as far as numbers are short enough to be read.
Each text has one outcome, by the only outline that it may have. No text fails with an error of a
single identifier other than its length, or because a number is negative. -/
theorem parse_iff_reads (text : String) :
    (∀ result, (parse text).mapError Error.message = result ↔ Reads text result) ∧
    (∀ a b, Derives text.toList a → Derives text.toList b → a = b) ∧
    ∀ e, parse text = .error e → e = .empty ∨ e = .malformed text ∨
      ∃ digits, e = .tooLong ⟨digits⟩ ∨ e = .identifier (.tooLong ⟨digits⟩) := by
  refine ⟨fun result => ⟨?_, Reads.parse⟩, fun _ _ => derives_unique, ?_⟩
  · intro outcome
    obtain ⟨other, reads⟩ := reads_total text
    rwa [← outcome, reads.parse]
  · intro e failed
    by_cases noText : text = ""
    · subst noText
      exact .inl (Except.error.inj failed).symm
    by_cases derivable : ∃ o, Derives text.toList o
    · obtain ⟨o, derives⟩ := derivable
      rw [parse_of_derives derives] at failed
      exact .inr (.inr (version_error (derives_iff.mp derives).1 failed))
    · rw [parse_of_not_derives noText (not_exists.mp derivable)] at failed
      exact .inr (.inl (Except.error.inj failed).symm)

-- words that start like numbers, hyphens on both sides of their mark, and zeros in front in the build
example : parse "1.0.0-0a.--.0+00.-" =
    .ok ⟨1, 0, 0, [.word "0a", .word "--", .number 0], ["00", "-"]⟩ := by decide +kernel

end VersionGate.Version.Grammar
