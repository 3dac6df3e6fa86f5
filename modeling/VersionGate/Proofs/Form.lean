import VersionGate.Proofs.Grammar
import VersionGate.Proofs.Pattern.Search
import VersionGate.Version.Parser

/-! The pattern of version texts against their grammar. The alternatives of the pattern overlap and
the search commits to none of them, so all that counts is what each part spells: exactly the texts
of one rule of the grammar. -/
namespace VersionGate.Version.Form
open Text Pattern Grammar

/-- The pattern of numbers from one up, whose first digit is not zero. -/
theorem stands_positive : Stands (.sequence positiveDigit (.many digit)) fun text =>
    ∃ c rest, text = c :: rest ∧ Digit c ∧ c ≠ '0' ∧ ∀ d ∈ rest, Digit d := by
  refine ((stands_character _).sequence (stands_many_character _)).congr fun text => ?_
  simp only [digit_iff, Bool.and_eq_true, bne_iff_ne]
  constructor
  · rintro ⟨_, rest, rfl, ⟨c, ⟨isDigit, nonzero⟩, rfl⟩, digits⟩
    exact ⟨c, rest, rfl, isDigit, nonzero, digits⟩
  · rintro ⟨c, rest, rfl, isDigit, nonzero, digits⟩
    exact ⟨[c], rest, rfl, ⟨c, ⟨isDigit, nonzero⟩, rfl⟩, digits⟩

theorem numeric_iff : Numeric text ↔
    text = ['0'] ∨ ∃ c rest, text = c :: rest ∧ Digit c ∧ c ≠ '0' ∧ ∀ d ∈ rest, Digit d := by
  constructor
  · rintro (_ | ⟨isDigit, nonzero, digits⟩)
    · exact .inl rfl
    · exact .inr ⟨_, _, rfl, isDigit, nonzero, digits⟩
  · rintro (rfl | ⟨c, rest, rfl, isDigit, nonzero, digits⟩)
    · exact .zero
    · exact .positive isDigit nonzero digits

theorem stands_numeral : Stands numeral Numeric :=
  ((stands_exactly '0').either stands_positive).congr fun _ => numeric_iff.symm

/-- The first character that is no digit splits a text into the digits before it and the rest. -/
theorem exists_first_nondigit (characters : ∀ c ∈ text, IdentifierCharacter c)
    (nondigit : ∃ c ∈ text, ¬ Digit c) : ∃ digits c rest, text = digits ++ c :: rest ∧
      (∀ d ∈ digits, Digit d) ∧ (Letter c ∨ c = '-') ∧ ∀ d ∈ rest, IdentifierCharacter d := by
  induction text with
  | nil => simp at nondigit
  | cons c rest ih =>
    obtain ⟨valid, validRest⟩ := List.forall_mem_cons.mp characters
    by_cases isDigit : Digit c
    · have later : ∃ d ∈ rest, ¬ Digit d := by simpa [isDigit] using nondigit
      obtain ⟨digits, d, after, rfl, allDigits, stop, validAfter⟩ := ih validRest later
      exact ⟨c :: digits, d, after, rfl, List.forall_mem_cons.mpr ⟨isDigit, allDigits⟩, stop,
        validAfter⟩
    · exact ⟨[], c, rest, rfl, by simp, valid.resolve_left isDigit, validRest⟩

theorem alphanumeric_iff : BuildIdentifier text ∧ (∃ c ∈ text, ¬ Digit c) ↔
    ∃ digits c rest, text = digits ++ c :: rest ∧ (∀ d ∈ digits, Digit d) ∧
      (Letter c ∨ c = '-') ∧ ∀ d ∈ rest, IdentifierCharacter d := by
  constructor
  · rintro ⟨⟨_, characters⟩, nondigit⟩
    exact exists_first_nondigit characters nondigit
  · rintro ⟨digits, c, rest, rfl, allDigits, stop, valid⟩
    have nondigit : ¬ Digit c := by
      rcases stop with letter | rfl
      · exact letter.not_digit
      · decide
    refine ⟨⟨by simp, ?_⟩, c, by simp, nondigit⟩
    intro d member
    rcases List.mem_append.mp member with before | after
    · exact .inl (allDigits d before)
    · rcases List.mem_cons.mp after with rfl | later
      · exact .inr stop
      · exact valid d later

theorem stands_word :
    Stands word fun text => BuildIdentifier text ∧ ∃ c ∈ text, ¬ Digit c := by
  refine ((stands_many_character _).sequence
    ((stands_character _).sequence (stands_many_character _))).congr fun text => ?_
  rw [alphanumeric_iff]
  simp only [digit_iff, letter_iff, identifierCharacter_iff, Bool.or_eq_true, beq_iff_eq]
  constructor
  · rintro ⟨digits, _, rfl, allDigits, _, rest, rfl, ⟨c, stop, rfl⟩, valid⟩
    exact ⟨digits, c, rest, rfl, allDigits, stop, valid⟩
  · rintro ⟨digits, c, rest, rfl, allDigits, stop, valid⟩
    exact ⟨digits, c :: rest, rfl, allDigits, [c], rest, rfl, ⟨c, stop, rfl⟩, valid⟩

theorem stands_prereleaseIdentifier : Stands prereleaseIdentifier PrereleaseIdentifier := by
  refine ((stands_exactly '0').either (stands_positive.either stands_word)).congr fun text => ?_
  rw [← or_assoc, ← numeric_iff]
  constructor
  · rintro (numeric | ⟨identifier, nondigit⟩)
    · exact .numeric numeric
    · exact .alphanumeric identifier nondigit
  · rintro (numeric | ⟨identifier, nondigit⟩)
    · exact .inl numeric
    · exact .inr ⟨identifier, nondigit⟩

theorem stands_buildIdentifier : Stands buildIdentifier BuildIdentifier := by
  refine ((stands_character _).sequence (stands_many_character _)).congr fun text => ?_
  simp only [BuildIdentifier, identifierCharacter_iff]
  constructor
  · rintro ⟨_, rest, rfl, ⟨c, valid, rfl⟩, others⟩
    exact ⟨List.cons_ne_nil c rest, List.forall_mem_cons.mpr ⟨valid, others⟩⟩
  · rintro ⟨someText, valid⟩
    cases text with
    | nil => contradiction
    | cons c rest =>
      obtain ⟨first, others⟩ := List.forall_mem_cons.mp valid
      exact ⟨[c], rest, rfl, ⟨c, first, rfl⟩, others⟩

theorem stands_dotted {item : Pattern Field} (stands : Stands item Item) :
    Stands (dotted item) fun text => ∃ items, Dotted Item text items := by
  refine (stands.sequence ((stands_exactly '.').sequence stands).many).congr fun text => ?_
  constructor
  · rintro ⟨first, _, rfl, valid, parts, rfl, rules⟩
    induction parts generalizing first with
    | nil => exact ⟨[first], by simpa using .single valid⟩
    | cons part parts ih =>
      obtain ⟨⟨_, _, next, rfl, rfl, validNext⟩, others⟩ := List.forall_mem_cons.mp rules
      obtain ⟨items, more⟩ := ih next validNext others
      exact ⟨first :: items, by simpa using .more valid more⟩
  · rintro ⟨items, list⟩
    induction list with
    | @single first valid => exact ⟨first, [], by simp, valid, [], rfl, by simp⟩
    | @more first rest items valid _ ih =>
      obtain ⟨next, _, rfl, validNext, parts, rfl, rules⟩ := ih
      refine ⟨first, _, rfl, valid, ('.' :: next) :: parts, by simp, ?_⟩
      exact List.forall_mem_cons.mpr ⟨⟨by simp, ['.'], next, rfl, rfl, validNext⟩, rules⟩

/-- The named part of a text behind a mark. -/
def listPart (field : Field) : List Char → Groups Field
  | [] => []
  | _ :: list => [(field, list)]

theorem spells_suffix {item : Pattern Field} (stands : Stands item Item) :
    Spells (suffix mark field item) text groups ↔
      (∃ items, Grammar.Suffix mark Item text items) ∧ groups = listPart field text := by
  rw [suffix, spells_optional, spells_sequence]
  constructor
  · rintro (⟨_, list, _, _, rfl, rfl, atMark, inner⟩ | ⟨rfl, rfl⟩)
    · obtain ⟨rfl, rfl⟩ := spells_exactly.mp atMark
      obtain ⟨_, spelt, rfl⟩ := spells_named.mp inner
      obtain ⟨⟨items, dotted⟩, rfl⟩ := (stands_dotted stands list _).mp spelt
      exact ⟨⟨items, .present dotted⟩, rfl⟩
    · exact ⟨⟨[], .absent⟩, rfl⟩
  · rintro ⟨⟨items, _ | @⟨list, _, dotted⟩⟩, rfl⟩
    · exact .inr ⟨rfl, rfl⟩
    · have spelt := (stands_dotted stands list []).mpr ⟨⟨items, dotted⟩, rfl⟩
      exact .inl ⟨[mark], list, [], [(field, list)], rfl, rfl, spells_exactly.mpr ⟨rfl, rfl⟩,
        .named spelt⟩

theorem spells_number : Spells (.named field numeral) text groups ↔
    Numeric text ∧ groups = [(field, text)] := by
  rw [spells_named]
  constructor
  · rintro ⟨gs, spelt, rfl⟩
    obtain ⟨numeric, rfl⟩ := (stands_numeral text gs).mp spelt
    exact ⟨numeric, rfl⟩
  · rintro ⟨numeric, rfl⟩
    exact ⟨[], (stands_numeral text []).mpr ⟨numeric, rfl⟩, rfl⟩

theorem spells_core : Spells core text groups ↔ ∃ major minor patch,
    text = major ++ '.' :: minor ++ '.' :: patch ∧ Numeric major ∧ Numeric minor ∧ Numeric patch ∧
      groups = [(.major, major), (.minor, minor), (.patch, patch)] := by
  simp only [core, spells_sequence, spells_number, spells_exactly]
  constructor
  · rintro ⟨major, _, _, _, rfl, rfl, ⟨numeric₁, rfl⟩, _, _, _, _, rfl, rfl, ⟨rfl, rfl⟩,
      minor, _, _, _, rfl, rfl, ⟨numeric₂, rfl⟩, _, patch, _, _, rfl, rfl, ⟨rfl, rfl⟩,
      numeric₃, rfl⟩
    exact ⟨major, minor, patch, by simp, numeric₁, numeric₂, numeric₃, rfl⟩
  · rintro ⟨major, minor, patch, rfl, numeric₁, numeric₂, numeric₃, rfl⟩
    exact ⟨major, _, _, _, by simp, rfl, ⟨numeric₁, rfl⟩, ['.'], _, [], _, rfl, rfl, ⟨rfl, rfl⟩,
      minor, _, _, _, rfl, rfl, ⟨numeric₂, rfl⟩, ['.'], patch, [], _, rfl, rfl, ⟨rfl, rfl⟩,
      numeric₃, rfl⟩

/-- The named parts of a text whose core ends where `afterCore` starts. -/
def parts (o : Outline) (afterCore afterPrerelease : List Char) : Groups Field :=
  [(.major, o.major), (.minor, o.minor), (.patch, o.patch)] ++ (listPart .prerelease afterCore ++
    listPart .build afterPrerelease)

theorem listed_listPart (field : Field) (suffix : Grammar.Suffix mark Item text items)
    (valid : ∀ word, Item word → BuildIdentifier word) :
    Outline.listed ((listPart field text).lookup field) = items := by
  cases suffix with
  | absent => rfl
  | @present list _ dotted =>
    obtain ⟨rfl, someItem, rules⟩ := dotted_iff.mp dotted
    rw [listPart, List.lookup_cons_self]
    exact listed_joined someItem fun word member => valid word (rules word member)

theorem ofGroups_parts (prerelease : Grammar.Suffix '-' PrereleaseIdentifier afterCore o.prerelease)
    (build : Grammar.Suffix '+' BuildIdentifier afterPrerelease o.build) :
    Outline.ofGroups (parts o afterCore afterPrerelease) = o := by
  have prereleaseEq := listed_listPart .prerelease prerelease
    fun _ => PrereleaseIdentifier.buildIdentifier
  have buildEq := listed_listPart .build build fun _ => id
  have fields : Outline.ofGroups (parts o afterCore afterPrerelease) =
      ⟨o.major, o.minor, o.patch, Outline.listed ((listPart .prerelease afterCore).lookup .prerelease),
        Outline.listed ((listPart .build afterPrerelease).lookup .build)⟩ := by
    cases afterCore <;> cases afterPrerelease <;> rfl
  rw [fields, prereleaseEq, buildEq]

theorem spells_version : Spells version text groups ↔ ∃ o afterCore afterPrerelease,
    text = o.major ++ '.' :: o.minor ++ '.' :: o.patch ++ afterCore ++ afterPrerelease ∧
      Numeric o.major ∧ Numeric o.minor ∧ Numeric o.patch ∧
      Grammar.Suffix '-' PrereleaseIdentifier afterCore o.prerelease ∧
      Grammar.Suffix '+' BuildIdentifier afterPrerelease o.build ∧
      groups = parts o afterCore afterPrerelease := by
  simp only [version, spells_sequence, spells_core, spells_suffix stands_prereleaseIdentifier,
    spells_suffix stands_buildIdentifier]
  constructor
  · rintro ⟨_, _, _, _, rfl, rfl, ⟨major, minor, patch, rfl, numeric₁, numeric₂, numeric₃, rfl⟩,
      afterCore, afterPrerelease, _, _, rfl, rfl, ⟨⟨prerelease, suffix₁⟩, rfl⟩,
      ⟨build, suffix₂⟩, rfl⟩
    exact ⟨⟨major, minor, patch, prerelease, build⟩, afterCore, afterPrerelease, by simp,
      numeric₁, numeric₂, numeric₃, suffix₁, suffix₂, rfl⟩
  · rintro ⟨o, afterCore, afterPrerelease, rfl, numeric₁, numeric₂, numeric₃, suffix₁, suffix₂, rfl⟩
    exact ⟨_, afterCore ++ afterPrerelease, _, _, by simp, rfl,
      ⟨_, _, _, rfl, numeric₁, numeric₂, numeric₃, rfl⟩, afterCore, afterPrerelease, _, _, rfl,
      rfl, ⟨⟨_, suffix₁⟩, rfl⟩, ⟨_, suffix₂⟩, rfl⟩

/-- A match is a derivation of the text, whose outline is read off the named parts. -/
theorem ofGroups_fullMatch : (version.fullMatch text).map Outline.ofGroups = some o ↔
    Derives text o := by
  have sound {groups : Groups Field} (matched : version.fullMatch text = some groups) :
      Derives text (Outline.ofGroups groups) := by
    obtain ⟨o, afterCore, afterPrerelease, rfl, numeric₁, numeric₂, numeric₃, suffix₁, suffix₂,
      rfl⟩ := spells_version.mp (spells_of_fullMatch matched)
    rw [ofGroups_parts suffix₁ suffix₂]
    exact .version numeric₁ numeric₂ numeric₃ suffix₁ suffix₂
  constructor
  · intro read
    obtain ⟨groups, matched, rfl⟩ := Option.map_eq_some_iff.mp read
    exact sound matched
  · intro derives
    obtain ⟨groups, matched⟩ : ∃ groups, version.fullMatch text = some groups := by
      obtain ⟨numeric₁, numeric₂, numeric₃, suffix₁, suffix₂⟩ := derives
      exact Option.isSome_iff_exists.mp (fullMatch_isSome (spells_version.mpr
        ⟨o, _, _, rfl, numeric₁, numeric₂, numeric₃, suffix₁, suffix₂, rfl⟩))
    exact Option.map_eq_some_iff.mpr ⟨groups, matched, derives_unique (sound matched) derives⟩

end VersionGate.Version.Form
