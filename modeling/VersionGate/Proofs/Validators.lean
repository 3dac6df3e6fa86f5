import VersionGate.Proofs.Edits
import VersionGate.Proofs.TextOrder

/-! One identifier by two readings. Alone it is read by a few tests in turn, and within a version it is
part of the form of the whole. Both take the same texts for identifiers; a text that is taken keeps
its spelling, and no two of them become the same identifier. -/
namespace VersionGate

namespace Version.Grammar

theorem text_eq_front {o : Outline} (noPlus : '+' ∉ o.text) : o.text = front o := by
  have noBuild : o.build = [] := by
    cases build : o.build with
    | nil => rfl
    | cons word words => exact absurd (by simp [Outline.text, build, Outline.suffix]) noPlus
  simp [Outline.text, front, core, noBuild, Outline.suffix]

theorem WellFormed.cut_front (valid : WellFormed o) (someWord : o.prerelease ≠ []) :
    Text.cut '-' (front o) = (core o, some (Text.joined '.' o.prerelease)) := by
  have hyphenFree : '-' ∉ core o := valid.not_mem_core (by decide) (by decide)
  cases prerelease : o.prerelease with
  | nil => contradiction
  | cons word words =>
    rw [front, prerelease, Outline.suffix]
    exact Text.cut_append hyphenFree _

/-- Behind the numbers of a version, a text without marks of its own is the one identifier of the
pre-release, or the whole is no version. -/
theorem exists_derives_iff {word : List Char} (noDot : '.' ∉ word) (noPlus : '+' ∉ word) :
    (∃ o, Derives (['1', '.', '0', '.', '0'] ++ '-' :: word) o) ↔ PrereleaseIdentifier word := by
  constructor
  · rintro ⟨o, derives⟩
    obtain ⟨valid, textEq⟩ := derives_iff.mp derives
    have plusFree : '+' ∉ o.text := by simpa [← textEq] using noPlus
    rw [text_eq_front plusFree] at textEq
    have someWord : o.prerelease ≠ [] :=
      valid.hyphen_mem_front_iff.mp (textEq ▸ by simp)
    -- the first hyphen is the mark, since the numbers have none; what follows is a single piece
    have cutText := Text.cut_append (show '-' ∉ ['1', '.', '0', '.', '0'] by decide) word
    rw [textEq, valid.cut_front someWord] at cutText
    have joined : Text.joined '.' o.prerelease = word := by
      simpa using congrArg Prod.snd cutText
    have listed := Text.pieces_joined someWord fun item member =>
      (valid.words item member).not_mem (show ¬ IdentifierCharacter '.' by decide)
    rw [joined, Text.pieces_of_not_mem noDot] at listed
    exact valid.prerelease word (by simp [← listed])
  · intro identifier
    have one : Numeric ['1'] := .positive (by decide) (by decide) (by simp)
    refine ⟨⟨['1'], ['0'], ['0'], [word], []⟩, derives_iff.mpr ⟨⟨one, .zero, .zero, ?_, ?_⟩, ?_⟩⟩
    · exact List.forall_mem_singleton.mpr identifier
    · exact fun _ member => absurd member List.not_mem_nil
    · simp [Outline.text, Outline.suffix, Text.joined]

end Version.Grammar

theorem Version.Form.fullMatch_ne_none_iff (text : List Char) :
    version.fullMatch text ≠ none ↔ ∃ o, Grammar.Derives text o := by
  constructor
  · intro matched
    obtain ⟨groups, found⟩ := Option.ne_none_iff_exists'.mp matched
    exact ⟨_, ofGroups_fullMatch.mp (congrArg (Option.map Outline.ofGroups) found)⟩
  · rintro ⟨o, derives⟩ unmatched
    have outline := ofGroups_fullMatch.mpr derives
    rw [unmatched] at outline
    contradiction

namespace Identifier
open Version Version.Grammar
variable {text other : String} {first second : Identifier}

/-- A text that cannot stand as the one identifier behind the numbers of a version. -/
def Unfit (text : String) : Prop :=
  '.' ∈ text.toList ∨ '+' ∈ text.toList ∨ Form.version.fullMatch ("1.0.0-" ++ text).toList = none

theorem unfit_iff : Unfit text ↔ ¬ PrereleaseIdentifier text.toList := by
  -- a dot would start a second identifier and a plus the build list, so the form may match there
  by_cases marked : '.' ∈ text.toList ∨ '+' ∈ text.toList
  · have notIdentifier : ¬ PrereleaseIdentifier text.toList := by
      intro identifier
      rcases marked with dot | plus
      · exact identifier.buildIdentifier.not_mem (by decide) dot
      · exact identifier.buildIdentifier.not_mem (by decide) plus
    exact iff_of_true (or_assoc.mp (.inl marked)) notIdentifier
  · obtain ⟨noDot, noPlus⟩ := not_or.mp marked
    have behind : ("1.0.0-" ++ text).toList = ['1', '.', '0', '.', '0'] ++ '-' :: text.toList :=
      String.toList_append
    have matched := Form.fullMatch_ne_none_iff ("1.0.0-" ++ text).toList
    rw [behind, exists_derives_iff noDot noPlus] at matched
    rw [Unfit, behind, ← matched, not_not]
    simp [noDot, noPlus]

/-- What is said of a text that is no identifier, whatever its length. -/
def refusals (text : String) : List String :=
  ["Pre-release identifier cannot be empty",
    "Invalid character(s) in pre-release identifier " ++ Text.quoted text,
    "Numeric pre-release identifier must not have leading zeroes " ++ Text.quoted text]

/-- None of these starts as the message about too many digits does. -/
theorem tooLong_not_mem_refusals (e : Numeral.TooLong) : e.message ∉ refusals text := by
  have head : e.message.toList.head? = some 'E' := by
    delta Numeral.TooLong.message
    simp only [String.toList_append, List.append_assoc]
    rfl
  intro member
  simp only [refusals, List.mem_cons, List.not_mem_nil, or_false] at member
  rcases member with same | same | same
  · rw [same] at head
    exact absurd (Option.some.inj head) (by decide)
  · rw [same, String.toList_append] at head
    exact absurd (Option.some.inj head) (by decide)
  · rw [same, String.toList_append] at head
    exact absurd (Option.some.inj head) (by decide)

theorem refused_iff : (∃ e, parse text = .error e ∧ e.message ∈ refusals text) ↔
    ¬ PrereleaseIdentifier text.toList := by
  obtain ⟨result, reads⟩ := reads_total text
  rw [reads.parse]
  cases reads with
  | empty noText =>
    refine iff_of_true ⟨_, rfl, List.mem_cons_self⟩ ?_
    intro identifier
    exact identifier.buildIdentifier.1 (by simp [noText])
  | characters someText stranger =>
    refine iff_of_true ⟨_, rfl, .tail _ List.mem_cons_self⟩ ?_
    intro identifier
    obtain ⟨c, member, strange⟩ := stranger
    exact strange (identifier.buildIdentifier.2 c member)
  | leadingZeroes digits starts =>
    refine iff_of_true ⟨_, rfl, .tail _ (.tail _ List.mem_cons_self)⟩ ?_
    intro identifier
    have numeric := identifier.numeric_of_digits (isNumeric_iff.mpr digits)
    exact numeric.no_leading_zero (by simp [starts])
  | tooLong numeric long =>
    refine iff_of_false ?_ (not_not.mpr (.numeric numeric))
    rintro ⟨_, ⟨⟩, refused⟩
    exact tooLong_not_mem_refusals _ refused
  | identifier readable =>
    refine iff_of_false ?_ (not_not.mpr readable.1)
    rintro ⟨_, ⟨⟩, _⟩

theorem isNumeric_identifierValue {word : List Char} :
    (identifierValue word).isNumeric = true ↔ ∀ c ∈ word, Digit c := by
  rw [← isNumeric_iff, identifierValue]
  split
  · rename_i digits
    exact iff_of_true rfl digits
  · rename_i other
    exact iff_of_false Bool.false_ne_true other

/-- An identifier that was read is short enough to be written, and is written as it was read. -/
theorem print_identifierValue (readable : Readable text) :
    (identifierValue text.toList).print = .ok text := by
  obtain ⟨identifier, short⟩ := readable
  cases written : (identifierValue text.toList).print with
  | ok spelt =>
    rw [print] at written
    split at written
    · obtain rfl := Except.ok.inj written
      rw [render, chars_identifierValue identifier, String.ofList_toList]
    · contradiction
  | error e =>
    obtain ⟨n, isNumber, long⟩ := print_eq_error_iff.mp written
    have valid := wellFormed_identifierValue identifier (short ∘ isNumeric_iff.mp)
    rw [isNumber] at valid
    obtain ⟨nonnegative, bounded⟩ := valid
    have same : n.toNat = n.natAbs := by omega
    rw [same] at bounded
    omega

/-- Of two identifiers that are not the same, one comes before the other, and only one. -/
theorem precedes_eq_not_of_ne (apart : first ≠ second) :
    first.precedes second = !second.precedes first := by
  have keysApart : first.key ≠ second.key := key_injective.ne apart
  rw [Bool.eq_iff_iff, Bool.not_eq_true', ← Bool.not_eq_true, precedes_iff_key, precedes_iff_key]
  constructor
  · exact lt_asymm
  · exact fun notAfter => lt_of_le_of_ne (not_lt.mp notAfter) keysApart

/-- What an identifier keeps of the text that it was read from. Whatever else is read becomes another
identifier, which comes before it or after it. -/
structure Keeps (text : String) (identifier : Identifier) : Prop where
  numeric : identifier.isNumeric = true ↔ ∀ c ∈ text.toList, Digit c
  printed : identifier.print = .ok text
  not_same : ∀ {other second}, parse other = .ok second → other ≠ text →
    identifier.relate .eq second = false
  ordered : ∀ {other second}, parse other = .ok second → other ≠ text →
    identifier.relate .lt second = !second.relate .lt identifier

theorem keeps_of_readable (readable : Readable text) :
    Keeps text (identifierValue text.toList) := by
  have apart {other : String} {second : Identifier} (read : parse other = .ok second)
      (differs : other ≠ text) : identifierValue text.toList ≠ second := by
    obtain ⟨otherReadable, rfl⟩ := parse_eq_ok_iff.mp read
    intro same
    have spelt := identifierValue_inj readable.1 otherReadable.1 same
    exact differs (String.toList_injective spelt.symm)
  refine ⟨isNumeric_identifierValue, print_identifierValue readable, ?_, ?_⟩
  · intro other second read differs
    exact beq_eq_false_iff_ne.mpr (apart read differs)
  · intro other second read differs
    exact precedes_eq_not_of_ne (apart read differs)

/-- The tests for a single identifier refuse what the form of a version refuses behind three numbers,
and what has marks that would end the identifier there. Any other text is read, unless it is a number
of too many digits, and no text that is read is taken for another. -/
theorem identifier_readings_agree (text : String) :
    ((∃ e, parse text = .error e ∧ e.message ∈ refusals text) ↔ Unfit text) ∧
    (¬ Unfit text →
      ((∃ e, parse text = .error (.tooLong e)) ↔
        (∀ c ∈ text.toList, Digit c) ∧ 4300 < text.toList.length) ∧
      ((∃ e, parse text = .error (.tooLong e)) ∨
        ∃ identifier, parse text = .ok identifier ∧ Keeps text identifier)) := by
  refine ⟨refused_iff.trans unfit_iff.symm, ?_⟩
  intro fit
  have identifier : PrereleaseIdentifier text.toList := not_not.mp (mt unfit_iff.mpr fit)
  by_cases long : (∀ c ∈ text.toList, Digit c) ∧ 4300 < text.toList.length
  · obtain ⟨digits, beyond⟩ := long
    have numeric := identifier.numeric_of_digits (isNumeric_iff.mpr digits)
    have refused := (Reads.tooLong numeric beyond).parse
    exact ⟨iff_of_true ⟨_, refused⟩ ⟨digits, beyond⟩, .inl ⟨_, refused⟩⟩
  · have readable : Readable text :=
      ⟨identifier, fun digits => Nat.not_lt.mp fun beyond => long ⟨digits, beyond⟩⟩
    have read := (Reads.identifier readable).parse
    refine ⟨iff_of_false ?_ long, .inr ⟨_, read, keeps_of_readable readable⟩⟩
    rintro ⟨e, refused⟩
    rw [read] at refused
    contradiction

/-- Zeros in front are no matter where letters follow; the zero alone is a number. -/
theorem identifier_readings_agree_zeros :
    ¬ Unfit "00a" ∧ parse "00a" = .ok (.word "00a") ∧ parse "0" = .ok (.number 0) ∧
      (word "00a").print = .ok "00a" ∧ (word "00a").relate .eq (number 0) = false ∧
      (word "00a").relate .lt (number 0) = !(number 0).relate .lt (word "00a") := by
  have fit : ¬ Unfit "00a" := by
    unfold Unfit
    decide +kernel
  have read : parse "00a" = .ok (.word "00a") := by decide +kernel
  have zeroRead : parse "0" = .ok (.number 0) := by decide +kernel
  obtain ⟨_, outcome⟩ := (identifier_readings_agree "00a").2 fit
  rcases outcome with ⟨e, refused⟩ | ⟨identifier, taken, keeps⟩
  · rw [read] at refused
    contradiction
  · obtain rfl := Except.ok.inj (read.symm.trans taken)
    exact ⟨fit, read, zeroRead, keeps.printed, keeps.not_same zeroRead (by decide),
      keeps.ordered zeroRead (by decide)⟩

end Identifier

end VersionGate
