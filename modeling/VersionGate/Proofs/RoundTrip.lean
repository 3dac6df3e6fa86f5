import Mathlib.Data.List.Induction
import VersionGate.Proofs.Parsing
import VersionGate.Version.Printer

/-! Writing and reading undo each other. Both go by way of the outline: the outline of a version
that was read is the one it was read from, and the value of the outline of a version is the version
again, as long as the version has a form at all. -/
namespace VersionGate

open Version.Grammar

theorem digit_eq_digitChar (isDigit : Digit c) : ∃ k < 10, c = Nat.digitChar k := by
  obtain ⟨low, high⟩ := isDigit
  rw [Char.le_def, UInt32.le_iff_toNat_le] at low high
  have lower : 48 ≤ c.toNat := low
  have upper : c.toNat ≤ 57 := high
  refine ⟨c.toNat - 48, by omega, Char.toNat_inj.mp ?_⟩
  rw [Nat.toNat_digitChar_of_lt_ten (by omega)]
  omega

theorem digit_digitChar (small : k < 10) : Digit (Nat.digitChar k) := by
  simp [digit_iff, small]

theorem toDigits_concat (positive : 0 < n) (small : k < 10) :
    Nat.toDigits 10 (10 * n + k) = Nat.toDigits 10 n ++ [Nat.digitChar k] := by
  rw [← Nat.toDigits_append_toDigits (by decide) positive small, Nat.toDigits_of_lt_base small]

theorem exists_toDigits_of_positive (isDigit : Digit c) (nonzero : c ≠ '0')
    (digits : ∀ d ∈ rest, Digit d) : ∃ n, 0 < n ∧ c :: rest = Nat.toDigits 10 n := by
  induction rest using List.reverseRecOn with
  | nil =>
    obtain ⟨k, small, rfl⟩ := digit_eq_digitChar isDigit
    have positive : k ≠ 0 := by simpa using nonzero
    exact ⟨k, by omega, (Nat.toDigits_of_lt_base small).symm⟩
  | append_singleton rest d ih =>
    obtain ⟨n, positive, written⟩ := ih fun d member => digits d (by simp [member])
    obtain ⟨k, small, rfl⟩ := digit_eq_digitChar (digits d (by simp))
    exact ⟨10 * n + k, by omega, by rw [toDigits_concat positive small, ← written]; rfl⟩

theorem numeric_toDigits (n : Nat) : Numeric (Nat.toDigits 10 n) := by
  induction n using Nat.base_induction 10 (by decide) with
  | single k small =>
    rw [Nat.toDigits_of_lt_base small]
    by_cases zero : k = 0
    · subst zero
      exact .zero
    · exact .positive (digit_digitChar small) (by simpa using zero) (by simp)
  | digit n k small positive ih =>
    rw [toDigits_concat positive small]
    generalize written : Nat.toDigits 10 n = text at ih
    cases ih with
    | zero =>
      have value : n = 0 := by rw [← Nat.ofDigitChars_ten_toDigits (n := n), written]; rfl
      omega
    | positive isDigit nonzero digits =>
      refine .positive isDigit nonzero fun d member => ?_
      rcases List.mem_append.mp member with before | last
      · exact digits d before
      · obtain rfl := List.mem_singleton.mp last
        exact digit_digitChar small

theorem numeric_iff_toDigits : Numeric text ↔ ∃ n, text = Nat.toDigits 10 n := by
  constructor
  · rintro (_ | ⟨isDigit, nonzero, digits⟩)
    · exact ⟨0, rfl⟩
    · obtain ⟨n, _, written⟩ := exists_toDigits_of_positive isDigit nonzero digits
      exact ⟨n, written⟩
  · rintro ⟨n, rfl⟩
    exact numeric_toDigits n

theorem toDigits_ofDigitChars (numeric : Numeric text) :
    Nat.toDigits 10 (Nat.ofDigitChars 10 text 0) = text := by
  obtain ⟨n, rfl⟩ := numeric_iff_toDigits.mp numeric
  rw [Nat.ofDigitChars_ten_toDigits]

theorem isNumeric_toDigits (n : Nat) : isNumeric (Nat.toDigits 10 n) = true :=
  isNumeric_iff.mpr (numeric_toDigits n).digits

/-- A number short enough that is not negative, or a word that does not look like a number. -/
def Identifier.WellFormed : Identifier → Prop
  | .number n => 0 ≤ n ∧ (Nat.toDigits 10 n.toNat).length ≤ 4300
  | .word s => s ≠ "" ∧ (∀ c ∈ s.toList, IdentifierCharacter c) ∧ ∃ c ∈ s.toList, ¬ Digit c

namespace Version

/-- A version that has a text: nothing in it is longer or looks otherwise than what can be read. -/
structure WellFormed (v : Version) : Prop where
  major : (Nat.toDigits 10 v.major).length ≤ 4300
  minor : (Nat.toDigits 10 v.minor).length ≤ 4300
  patch : (Nat.toDigits 10 v.patch).length ≤ 4300
  prerelease : ∀ identifier ∈ v.prerelease, identifier.WellFormed
  build : ∀ word ∈ v.build, word ≠ "" ∧ ∀ c ∈ word.toList, IdentifierCharacter c

theorem chars_identifierValue (valid : PrereleaseIdentifier text) :
    (identifierValue text).chars = text := by
  rw [identifierValue]
  split
  · rename_i digits
    exact toDigits_ofDigitChars (valid.numeric_of_digits digits)
  · exact String.toList_ofList

theorem outline_value (valid : Grammar.WellFormed o) : (value o).outline = o := by
  have prerelease : (o.prerelease.map identifierValue).map Identifier.chars = o.prerelease := by
    rw [List.map_map]
    exact (List.map_congr_left fun text member =>
      chars_identifierValue (valid.prerelease text member)).trans (List.map_id _)
  have build : (o.build.map String.ofList).map String.toList = o.build := by simp
  rw [outline, value, prerelease, build]
  simp only [Numeral.write, toDigits_ofDigitChars valid.major, toDigits_ofDigitChars valid.minor,
    toDigits_ofDigitChars valid.patch]

theorem prereleaseIdentifier_chars (valid : Identifier.WellFormed identifier) :
    PrereleaseIdentifier identifier.chars := by
  cases identifier with
  | number n =>
    obtain ⟨n, rfl⟩ := Int.eq_ofNat_of_zero_le valid.1
    exact .numeric (numeric_toDigits n)
  | word s =>
    obtain ⟨someText, characters, nondigit⟩ := valid
    exact .alphanumeric ⟨by simpa [Identifier.chars] using someText, characters⟩ nondigit

theorem identifierValue_chars (valid : Identifier.WellFormed identifier) :
    identifierValue identifier.chars = identifier := by
  cases identifier with
  | number n =>
    obtain ⟨n, rfl⟩ := Int.eq_ofNat_of_zero_le valid.1
    have charsEq : (Identifier.number n).chars = Nat.toDigits 10 n := rfl
    rw [identifierValue, charsEq, if_pos (isNumeric_toDigits n), Nat.ofDigitChars_ten_toDigits]
  | word s =>
    obtain ⟨_, _, c, member, stop⟩ := valid
    have notNumeric : ¬ isNumeric s.toList = true := fun digits =>
      stop (isNumeric_iff.mp digits c member)
    rw [identifierValue, Identifier.chars, if_neg notNumeric, String.ofList_toList]

theorem wellFormed_outline (valid : WellFormed v) : Grammar.WellFormed v.outline where
  major := numeric_toDigits v.major
  minor := numeric_toDigits v.minor
  patch := numeric_toDigits v.patch
  prerelease := List.forall_mem_map.mpr fun identifier member =>
    prereleaseIdentifier_chars (valid.prerelease identifier member)
  build := List.forall_mem_map.mpr fun word member =>
    ⟨by simpa using (valid.build word member).1, (valid.build word member).2⟩

theorem value_outline (valid : WellFormed v) : value v.outline = v := by
  have prerelease : (v.prerelease.map Identifier.chars).map identifierValue = v.prerelease := by
    rw [List.map_map]
    exact (List.map_congr_left fun identifier member =>
      identifierValue_chars (valid.prerelease identifier member)).trans (List.map_id _)
  have build : (v.build.map String.toList).map String.ofList = v.build := by simp
  rw [value, outline, prerelease, build]
  simp only [Numeral.write, Nat.ofDigitChars_ten_toDigits]

theorem length_le_of_numericParts (valid : WellFormed v) :
    ∀ part ∈ numericParts v.outline, part.length ≤ 4300 := by
  intro part member
  rcases List.mem_append.mp member with core | listed
  · simp only [List.mem_cons, List.not_mem_nil, or_false] at core
    rcases core with rfl | rfl | rfl
    · exact valid.major
    · exact valid.minor
    · exact valid.patch
  · obtain ⟨inList, digits⟩ := List.mem_filter.mp listed
    obtain ⟨identifier, identifierMem, rfl⟩ := List.mem_map.mp inList
    have identifierValid := valid.prerelease identifier identifierMem
    cases identifier with
    | number n =>
      obtain ⟨n, rfl⟩ := Int.eq_ofNat_of_zero_le identifierValid.1
      exact identifierValid.2
    | word s =>
      obtain ⟨_, _, c, cMem, stop⟩ := identifierValid
      exact absurd (isNumeric_iff.mp digits c cMem) stop

theorem isWritable_value (valid : Grammar.WellFormed o)
    (short : ∀ part ∈ numericParts o, part.length ≤ 4300) : (value o).isWritable = true := by
  have numberWritable {text : List Char} (numeric : Numeric text) (member : text ∈ numericParts o) :
      Numeral.isWritable (Nat.ofDigitChars 10 text 0) = true := by
    rw [Numeral.isWritable, Int.natAbs_natCast, Numeral.write, toDigits_ofDigitChars numeric]
    exact decide_eq_true (short text member)
  have identifierWritable : ∀ identifier ∈ (value o).prerelease, identifier.isWritable = true := by
    refine List.forall_mem_map.mpr fun text member => ?_
    rw [identifierValue]
    split
    · rename_i digits
      have listed : text ∈ o.prerelease.filter isNumeric := List.mem_filter.mpr ⟨member, digits⟩
      exact numberWritable ((valid.prerelease text member).numeric_of_digits digits)
        (List.mem_append_right _ listed)
    · rfl
  simp only [isWritable, Bool.and_eq_true, List.all_eq_true]
  exact ⟨⟨⟨numberWritable valid.major (by simp [numericParts]),
    numberWritable valid.minor (by simp [numericParts])⟩,
    numberWritable valid.patch (by simp [numericParts])⟩, identifierWritable⟩

theorem print_eq (writable : isWritable v = true) : v.print = .ok v.render :=
  if_pos writable

/-- What was read can be written, and is written as it was. -/
theorem print_of_parse (read : parse text = .ok v) : v.print = .ok text := by
  obtain ⟨o, derives, short, rfl⟩ := parse_eq_ok_iff.mp read
  obtain ⟨valid, textEq⟩ := derives_iff.mp derives
  rw [print_eq (isWritable_value valid short), render, outline_value valid, ← textEq,
    String.ofList_toList]

theorem parse_render (valid : WellFormed v) : parse v.render = .ok v := by
  have derives : Derives v.render.toList v.outline :=
    derives_iff.mpr ⟨wellFormed_outline valid, String.toList_ofList⟩
  exact parse_eq_ok_iff.mpr
    ⟨v.outline, derives, length_le_of_numericParts valid, (value_outline valid).symm⟩

theorem wellFormed_identifierValue (valid : PrereleaseIdentifier text)
    (short : isNumeric text = true → text.length ≤ 4300) : (identifierValue text).WellFormed := by
  rw [identifierValue]
  split
  · rename_i digits
    refine ⟨Int.natCast_nonneg _, ?_⟩
    rw [Int.toNat_natCast, toDigits_ofDigitChars (valid.numeric_of_digits digits)]
    exact short digits
  · rename_i other
    cases valid with
    | numeric numeric => exact absurd (isNumeric_iff.mpr numeric.digits) other
    | alphanumeric identifier nondigit =>
      exact ⟨by simpa using identifier.1, by simpa using identifier.2, by simpa using nondigit⟩

theorem wellFormed_of_parse (accepted : parse text = .ok v) : v.WellFormed := by
  obtain ⟨o, derives, short, rfl⟩ := parse_eq_ok_iff.mp accepted
  have valid := (derives_iff.mp derives).1
  have number {part : List Char} (numeric : Numeric part) (member : part ∈ numericParts o) :
      (Nat.toDigits 10 (Nat.ofDigitChars 10 part 0)).length ≤ 4300 := by
    rw [toDigits_ofDigitChars numeric]
    exact short part member
  exact {
    major := number valid.major (by simp [numericParts])
    minor := number valid.minor (by simp [numericParts])
    patch := number valid.patch (by simp [numericParts])
    prerelease := List.forall_mem_map.mpr fun word member =>
      wellFormed_identifierValue (valid.prerelease word member) fun digits =>
        short word (List.mem_append_right _ (List.mem_filter.mpr ⟨member, digits⟩))
    build := List.forall_mem_map.mpr fun word member =>
      ⟨by simpa using (valid.build word member).1, by simpa using (valid.build word member).2⟩ }

/-- Writing undoes reading on every text that is read, and reading undoes writing on every version
that is well formed. -/
theorem print_parse_inverse :
    (∀ text v, parse text = .ok v → v.print = .ok text) ∧
    ∀ v : Version, v.WellFormed → ∃ text, v.print = .ok text ∧ parse text = .ok v := by
  refine ⟨fun _ _ => print_of_parse, fun v valid => ?_⟩
  have read := parse_render valid
  exact ⟨v.render, print_of_parse read, read⟩

theorem print_parse_mixed :
    ∃ text, print ⟨1, 18, 0, [.number 10, .word "0a"], ["00", "-"]⟩ = .ok text ∧
      parse text = .ok ⟨1, 18, 0, [.number 10, .word "0a"], ["00", "-"]⟩ := by
  have characters : IdentifierCharacter '0' ∧ IdentifierCharacter 'a' ∧ IdentifierCharacter '-' ∧
      ¬ Digit 'a' := by decide
  have short : (Nat.toDigits 10 10).length ≤ 4300 := by decide
  have identifiers : ∀ identifier ∈ [Identifier.number 10, .word "0a"], identifier.WellFormed := by
    simp [Identifier.WellFormed, characters, short]
  have words : ∀ word ∈ ["00", "-"], word ≠ "" ∧ ∀ c ∈ word.toList, IdentifierCharacter c := by
    simp [characters]
  exact print_parse_inverse.2 _ ⟨by decide, by decide, by decide, identifiers, words⟩

end Version

end VersionGate
