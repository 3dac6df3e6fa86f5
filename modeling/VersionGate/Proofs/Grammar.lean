import VersionGate.Version.Outline

/-! The grammar of version texts, one rule for each alternative, and what it leaves open: nothing.
The texts that a derivation gives are those that the outline spells, and no text has two outlines. -/
namespace VersionGate.Version.Grammar

def Digit (c : Char) : Prop := '0' ≤ c ∧ c ≤ '9'

def Letter (c : Char) : Prop := ('a' ≤ c ∧ c ≤ 'z') ∨ ('A' ≤ c ∧ c ≤ 'Z')

def IdentifierCharacter (c : Char) : Prop := Digit c ∨ Letter c ∨ c = '-'

theorem digit_iff {c : Char} : Digit c ↔ c.isDigit = true := by
  simp [Digit, Char.isDigit, Char.le_def]

theorem letter_iff {c : Char} : Letter c ↔ c.isAlpha = true := by
  have upper : c.isUpper = true ↔ 'A' ≤ c ∧ c ≤ 'Z' := decide_eq_true_iff
  have lower : c.isLower = true ↔ 'a' ≤ c ∧ c ≤ 'z' :=
    Bool.and_eq_true_iff.trans (and_congr decide_eq_true_iff decide_eq_true_iff)
  calc Letter c
    _ ↔ c.isUpper = true ∨ c.isLower = true := by rw [upper, lower, Letter, or_comm]
    _ ↔ c.isAlpha = true := Bool.or_eq_true_iff.symm

theorem identifierCharacter_iff {c : Char} :
    IdentifierCharacter c ↔ Identifier.isIdentifierChar c = true := by
  simp [IdentifierCharacter, digit_iff, letter_iff, Identifier.isIdentifierChar, Char.isAlphanum,
    or_assoc, or_left_comm]

instance : DecidablePred Digit := fun _ => decidable_of_iff _ digit_iff.symm

instance : DecidablePred Letter := fun _ => decidable_of_iff _ letter_iff.symm

instance : DecidablePred IdentifierCharacter :=
  fun _ => decidable_of_iff _ identifierCharacter_iff.symm

/-- A number of the core, and a numeric identifier of a pre-release. -/
inductive Numeric : List Char → Prop where
  | zero : Numeric ['0']
  | positive : Digit c → c ≠ '0' → (∀ d ∈ rest, Digit d) → Numeric (c :: rest)

/-- Any identifier of the build list; digits alone may start with zeros here. -/
def BuildIdentifier (text : List Char) : Prop :=
  text ≠ [] ∧ ∀ c ∈ text, IdentifierCharacter c

inductive PrereleaseIdentifier : List Char → Prop where
  | numeric : Numeric text → PrereleaseIdentifier text
  | alphanumeric : BuildIdentifier text → (∃ c ∈ text, ¬ Digit c) → PrereleaseIdentifier text

inductive Dotted (Item : List Char → Prop) : List Char → List (List Char) → Prop where
  | single : Item text → Dotted Item text [text]
  | more : Item text → Dotted Item rest items → Dotted Item (text ++ '.' :: rest) (text :: items)

/-- A dotted list behind its mark, or nothing at all. -/
inductive Suffix (mark : Char) (Item : List Char → Prop) : List Char → List (List Char) → Prop where
  | absent : Suffix mark Item [] []
  | present : Dotted Item text items → Suffix mark Item (mark :: text) items

inductive Derives : List Char → Outline → Prop where
  | version {o : Outline} : Numeric o.major → Numeric o.minor → Numeric o.patch →
      Suffix '-' PrereleaseIdentifier afterCore o.prerelease →
      Suffix '+' BuildIdentifier afterPrerelease o.build →
      Derives (o.major ++ '.' :: o.minor ++ '.' :: o.patch ++ afterCore ++ afterPrerelease) o

theorem Letter.not_digit (letter : Letter c) : ¬ Digit c := by
  rintro ⟨_, small⟩
  rcases letter with ⟨large, _⟩ | ⟨large, _⟩
  · exact absurd (Char.le_trans large small) (by decide)
  · exact absurd (Char.le_trans large small) (by decide)

theorem Numeric.digits (numeric : Numeric text) : ∀ c ∈ text, Digit c := by
  cases numeric with
  | zero => simp [Digit]
  | positive first _ others => exact List.forall_mem_cons.mpr ⟨first, others⟩

theorem Numeric.ne_nil (numeric : Numeric text) : text ≠ [] := by
  cases numeric <;> simp

/-- A mark of the format: no number has it, and no identifier but for the hyphen. -/
theorem Numeric.not_mem (numeric : Numeric text) (mark : ¬ Digit c) : c ∉ text :=
  fun member => mark (numeric.digits c member)

theorem PrereleaseIdentifier.buildIdentifier (identifier : PrereleaseIdentifier text) :
    BuildIdentifier text := by
  cases identifier with
  | numeric numeric => exact ⟨numeric.ne_nil, fun c member => .inl (numeric.digits c member)⟩
  | alphanumeric identifier _ => exact identifier

theorem BuildIdentifier.not_mem (identifier : BuildIdentifier text)
    (mark : ¬ IdentifierCharacter c) : c ∉ text :=
  fun member => mark (identifier.2 c member)

theorem dotted_iff {Item : List Char → Prop} : Dotted Item text items ↔
    text = Text.joined '.' items ∧ items ≠ [] ∧ ∀ item ∈ items, Item item := by
  constructor
  · intro dotted
    induction dotted with
    | single valid => exact ⟨rfl, by simp, by simpa using valid⟩
    | @more text rest items valid _ ih =>
      obtain ⟨rfl, someItem, validItems⟩ := ih
      refine ⟨?_, by simp, List.forall_mem_cons.mpr ⟨valid, validItems⟩⟩
      cases items with
      | nil => contradiction
      | cons item items => rfl
  · rintro ⟨rfl, someItem, valid⟩
    induction items with
    | nil => contradiction
    | cons item items ih =>
      obtain ⟨first, others⟩ := List.forall_mem_cons.mp valid
      cases items with
      | nil => exact .single first
      | cons next items => exact .more first (ih (by simp) others)

theorem suffix_iff {Item : List Char → Prop} : Suffix mark Item text items ↔
    text = Outline.suffix mark items ∧ ∀ item ∈ items, Item item := by
  constructor
  · rintro (_ | dotted)
    · exact ⟨rfl, by simp⟩
    · obtain ⟨rfl, someItem, valid⟩ := dotted_iff.mp dotted
      cases items with
      | nil => contradiction
      | cons item items => exact ⟨rfl, valid⟩
  · rintro ⟨rfl, valid⟩
    cases items with
    | nil => exact .absent
    | cons item items => exact .present (dotted_iff.mpr ⟨rfl, by simp, valid⟩)

/-- The parts of an outline, each by the rule for it. -/
structure WellFormed (o : Outline) : Prop where
  major : Numeric o.major
  minor : Numeric o.minor
  patch : Numeric o.patch
  prerelease : ∀ word ∈ o.prerelease, PrereleaseIdentifier word
  build : ∀ word ∈ o.build, BuildIdentifier word

theorem derives_iff : Derives text o ↔ WellFormed o ∧ text = o.text := by
  constructor
  · rintro ⟨major, minor, patch, afterCore, afterPrerelease⟩
    obtain ⟨rfl, prerelease⟩ := suffix_iff.mp afterCore
    obtain ⟨rfl, build⟩ := suffix_iff.mp afterPrerelease
    exact ⟨⟨major, minor, patch, prerelease, build⟩, rfl⟩
  · rintro ⟨valid, rfl⟩
    exact .version valid.major valid.minor valid.patch (suffix_iff.mpr ⟨rfl, valid.prerelease⟩)
      (suffix_iff.mpr ⟨rfl, valid.build⟩)

/-- The three numbers, as they stand in front of all marks. -/
def core (o : Outline) : List Char := o.major ++ '.' :: o.minor ++ '.' :: o.patch

/-- All that stands in front of the build list. -/
def front (o : Outline) : List Char := core o ++ Outline.suffix '-' o.prerelease

theorem core_eq_joined (o : Outline) :
    core o = Text.joined '.' [o.major, o.minor, o.patch] := by simp [core, Text.joined]

theorem WellFormed.numbers (valid : WellFormed o) :
    ∀ number ∈ [o.major, o.minor, o.patch], Numeric number := by
  simp [valid.major, valid.minor, valid.patch]

theorem WellFormed.words (valid : WellFormed o) : ∀ word ∈ o.prerelease, BuildIdentifier word :=
  fun word member => (valid.prerelease word member).buildIdentifier

theorem WellFormed.not_mem_core (valid : WellFormed o) (other : mark ≠ '.')
    (noDigit : ¬ Digit mark) : mark ∉ core o := by
  rw [core_eq_joined]
  exact Text.not_mem_joined other fun number member =>
    (valid.numbers number member).not_mem noDigit

theorem not_mem_suffix (apart : c ≠ mark) (noDot : c ≠ '.') (free : ∀ word ∈ words, c ∉ word) :
    c ∉ Outline.suffix mark words := by
  cases words with
  | nil => exact List.not_mem_nil
  | cons word words => exact List.not_mem_cons_of_ne_of_not_mem apart (Text.not_mem_joined noDot free)

theorem WellFormed.not_mem_front (valid : WellFormed o) (other : ¬ IdentifierCharacter c)
    (noDot : c ≠ '.') : c ∉ front o := by
  have noHyphen : c ≠ '-' := fun same => other (.inr (.inr same))
  rw [front, List.mem_append, not_or]
  exact ⟨valid.not_mem_core noDot fun digit => other (.inl digit),
    not_mem_suffix noHyphen noDot fun word member => (valid.words word member).not_mem other⟩

theorem WellFormed.plus_not_mem_front (valid : WellFormed o) : '+' ∉ front o :=
  valid.not_mem_front (by decide) (by decide)

/-- Only what may stand in an identifier stands in a text, and the two marks that may not. -/
theorem WellFormed.not_mem_text (valid : WellFormed o) (other : ¬ IdentifierCharacter c)
    (noDot : c ≠ '.') (noPlus : c ≠ '+') : c ∉ o.text := by
  have split : o.text = front o ++ Outline.suffix '+' o.build := rfl
  rw [split, List.mem_append, not_or]
  exact ⟨valid.not_mem_front other noDot,
    not_mem_suffix noPlus noDot fun word member => (valid.build word member).not_mem other⟩

/-- Hyphens are also in words, but none is in the numbers. -/
theorem WellFormed.hyphen_mem_front_iff (valid : WellFormed o) :
    '-' ∈ front o ↔ o.prerelease ≠ [] := by
  have coreFree : '-' ∉ core o := valid.not_mem_core (by decide) (by decide)
  cases prerelease : o.prerelease with
  | nil => simpa [front, prerelease, Outline.suffix] using coreFree
  | cons word words => simp [front, prerelease, Outline.suffix]

theorem WellFormed.takeWhile_text (valid : WellFormed o) :
    o.text.takeWhile (· ≠ '+') = front o := by
  have before : ∀ c ∈ front o, decide (c ≠ '+') = true := by
    intro c member
    exact decide_eq_true fun same => valid.plus_not_mem_front (same ▸ member)
  have behind : (Outline.suffix '+' o.build).takeWhile (· ≠ '+') = [] := by
    cases o.build <;> simp [Outline.suffix]
  have split : o.text = front o ++ Outline.suffix '+' o.build := rfl
  rw [split, List.takeWhile_append_of_pos before, behind, List.append_nil]

/-- The outline of a text of the grammar, found without the grammar: the build list is behind the
first plus, and the pre-release list behind the first hyphen before it. -/
def cutAtMarks (text : List Char) : List (List Char) × List (List Char) × List (List Char) :=
  let (front, build) := Text.cut '+' text
  let (core, prerelease) := Text.cut '-' front
  (Text.pieces '.' core, Outline.listed prerelease, Outline.listed build)

theorem listed_joined (someWord : words ≠ []) (valid : ∀ word ∈ words, BuildIdentifier word) :
    Outline.listed (some (Text.joined '.' words)) = words := by
  have split : Text.pieces '.' (Text.joined '.' words) = words :=
    Text.pieces_joined someWord fun word member => (valid word member).not_mem (by decide)
  cases joined : Text.joined '.' words with
  | nil =>
    -- the only list of this text is a single empty word
    rw [joined] at split
    exact absurd rfl (valid [] (by simp [← split, Text.pieces])).1
  | cons c rest => rw [Outline.listed, ← joined, split]; simp

theorem cut_suffix (free : mark ∉ before) (valid : ∀ word ∈ words, BuildIdentifier word) :
    ∃ after, Text.cut mark (before ++ Outline.suffix mark words) = (before, after) ∧
      Outline.listed after = words := by
  cases words with
  | nil => exact ⟨none, by rw [Outline.suffix, List.append_nil, Text.cut_eq_of_not_mem free], rfl⟩
  | cons word words =>
    exact ⟨some (Text.joined '.' (word :: words)), Text.cut_append free _,
      listed_joined (by simp) valid⟩

theorem cutAtMarks_text (valid : WellFormed o) :
    cutAtMarks o.text = ([o.major, o.minor, o.patch], o.prerelease, o.build) := by
  have hyphenFree : '-' ∉ core o := valid.not_mem_core (by decide) (by decide)
  obtain ⟨build, cutBuild, buildEq⟩ := cut_suffix valid.plus_not_mem_front valid.build
  obtain ⟨prerelease, cutPrerelease, prereleaseEq⟩ := cut_suffix hyphenFree valid.words
  have corePieces : Text.pieces '.' (core o) = [o.major, o.minor, o.patch] := by
    rw [core_eq_joined]
    exact Text.pieces_joined (by simp) fun number member =>
      (valid.numbers number member).not_mem (by decide)
  have cutText : Text.cut '+' o.text = (front o, build) := cutBuild
  have cutFront : Text.cut '-' (front o) = (core o, prerelease) := cutPrerelease
  simp only [cutAtMarks, cutText, cutFront, corePieces, prereleaseEq, buildEq]

/-- The grammar is unambiguous. -/
theorem derives_unique (first : Derives text a) (second : Derives text b) : a = b := by
  obtain ⟨validA, textA⟩ := derives_iff.mp first
  obtain ⟨validB, textB⟩ := derives_iff.mp second
  have parts := (cutAtMarks_text validA).symm.trans
    ((congrArg cutAtMarks (textA.symm.trans textB)).trans (cutAtMarks_text validB))
  cases a
  cases b
  simpa [and_assoc] using parts

end VersionGate.Version.Grammar
