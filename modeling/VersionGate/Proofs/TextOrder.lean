import Mathlib.Order.Compare
import VersionGate.Proofs.Precedence
import VersionGate.Proofs.RoundTrip

/-! Precedence as it stands in the texts. It is defined on the outlines of two texts, by their
digits and characters alone, and is what `compare` finds between the versions read from them. What
is equal in precedence is spelt the same up to the build list. -/
namespace VersionGate.Version
namespace Grammar

/-- Between two identifiers of digits the numbers decide; digits alone are below anything else; and
otherwise the first character that differs decides, a beginning of the other text being lower. -/
inductive WordBelow (a b : List Char) : Prop where
  | numbers : isNumeric a = true → isNumeric b = true →
      Nat.ofDigitChars 10 a 0 < Nat.ofDigitChars 10 b 0 → WordBelow a b
  | kinds : isNumeric a = true → isNumeric b = false → WordBelow a b
  | characters : isNumeric a = false → isNumeric b = false → List.Lex (· < ·) a b → WordBelow a b

/-- The numbers in front of a text, which are compared from left to right. -/
def coreNumbers (o : Outline) : ℕ ×ₗ ℕ ×ₗ ℕ :=
  toLex (Nat.ofDigitChars 10 o.major 0,
    toLex (Nat.ofDigitChars 10 o.minor 0, Nat.ofDigitChars 10 o.patch 0))

/-- The rules of precedence between two texts. The first identifiers that differ decide, and a list
is above its own beginnings, but no list at all is above any. -/
inductive TextBelow (o p : Outline) : Prop where
  | numbers : coreNumbers o < coreNumbers p → TextBelow o p
  | release : coreNumbers o = coreNumbers p → o.prerelease ≠ [] → p.prerelease = [] → TextBelow o p
  | identifiers : coreNumbers o = coreNumbers p → o.prerelease ≠ [] →
      List.Lex WordBelow o.prerelease p.prerelease → TextBelow o p

theorem identifierValue_of_numeric (digits : isNumeric word = true) :
    identifierValue word = .number (Nat.ofDigitChars 10 word 0) :=
  if_pos digits

theorem identifierValue_of_not_numeric (nondigit : isNumeric word = false) :
    identifierValue word = .word (String.ofList word) :=
  if_neg (by simp [nondigit])

theorem below_identifierValue_iff :
    (identifierValue a).Below (identifierValue b) ↔ WordBelow a b := by
  constructor
  · intro below
    rw [identifierValue, identifierValue] at below
    split at below <;> rename_i kindA <;> split at below <;> rename_i kindB
    · cases below with
      | numbers less => exact .numbers kindA kindB (Int.ofNat_lt.mp less)
    · exact .kinds kindA (Bool.eq_false_iff.mpr kindB)
    · cases below
    · cases below with
      | words less =>
        exact .characters (Bool.eq_false_iff.mpr kindA) (Bool.eq_false_iff.mpr kindB)
          (by simpa using less)
  · rintro (⟨digitsA, digitsB, less⟩ | ⟨digitsA, otherB⟩ | ⟨otherA, otherB, less⟩)
    · rw [identifierValue_of_numeric digitsA, identifierValue_of_numeric digitsB]
      exact .numbers (Int.ofNat_lt.mpr less)
    · rw [identifierValue_of_numeric digitsA, identifierValue_of_not_numeric otherB]
      exact .kinds
    · rw [identifierValue_of_not_numeric otherA, identifierValue_of_not_numeric otherB]
      exact .words (by simpa using less)

theorem identifierValue_inj (validA : PrereleaseIdentifier a) (validB : PrereleaseIdentifier b)
    (same : identifierValue a = identifierValue b) : a = b := by
  rw [← chars_identifierValue validA, same, chars_identifierValue validB]

/-- The first difference between two lists stays where it is when the words get their values. -/
theorem lex_map_identifierValue_iff (validAs : ∀ word ∈ as, PrereleaseIdentifier word)
    (validBs : ∀ word ∈ bs, PrereleaseIdentifier word) :
    List.Lex Identifier.Below (as.map identifierValue) (bs.map identifierValue) ↔
      List.Lex WordBelow as bs := by
  constructor
  · intro lower
    induction as generalizing bs with
    | nil =>
      cases bs with
      | nil => cases lower
      | cons b bs => exact .nil
    | cons a as ih =>
      cases bs with
      | nil => cases lower
      | cons b bs =>
        obtain ⟨validA, restAs⟩ := List.forall_mem_cons.mp validAs
        obtain ⟨validB, restBs⟩ := List.forall_mem_cons.mp validBs
        rw [List.map_cons, List.map_cons] at lower
        generalize firstB : identifierValue b = first at lower
        cases lower with
        | cons rest =>
          obtain rfl := identifierValue_inj validB validA firstB
          exact .cons (ih restAs restBs rest)
        | rel below =>
          rw [← firstB] at below
          exact .rel (below_identifierValue_iff.mp below)
  · intro lower
    induction lower with
    | nil => exact .nil
    | cons _ ih =>
      exact .cons (ih (List.forall_mem_cons.mp validAs).2 (List.forall_mem_cons.mp validBs).2)
    | rel below => exact .rel (below_identifierValue_iff.mpr below)

theorem numbers_value (o : Outline) : (value o).numbers = coreNumbers o := rfl

theorem below_value_iff (validO : WellFormed o) (validP : WellFormed p) :
    (value o).Below (value p) ↔ TextBelow o p := by
  have identifiers := lex_map_identifierValue_iff validO.prerelease validP.prerelease
  rw [below_iff_numbers, numbers_value, numbers_value]
  simp only [value, identifiers, ne_eq, List.map_eq_nil_iff]
  constructor
  · rintro (lower | ⟨same, someWord, none | lower⟩)
    · exact .numbers lower
    · exact .release same someWord none
    · exact .identifiers same someWord lower
  · rintro (lower | ⟨same, someWord, none⟩ | ⟨same, someWord, lower⟩)
    · exact .inl lower
    · exact .inr ⟨same, someWord, .inl none⟩
    · exact .inr ⟨same, someWord, .inr lower⟩

/-- Versions of equal precedence have the same text in front of the build list. -/
theorem key_value_eq_iff (validO : WellFormed o) (validP : WellFormed p) :
    (value o).key = (value p).key ↔
      o.major = p.major ∧ o.minor = p.minor ∧ o.patch = p.patch ∧ o.prerelease = p.prerelease := by
  rw [key_eq_iff]
  constructor
  · rintro ⟨major, minor, patch, prerelease⟩
    have spelling : { (value o).outline with build := [] } =
        { (value p).outline with build := [] } := by
      simp only [outline, major, minor, patch, prerelease]
    rw [outline_value validO, outline_value validP] at spelling
    simpa using spelling
  · rintro ⟨major, minor, patch, prerelease⟩
    simp only [value, major, minor, patch, prerelease, and_self]

/-- Comparing two versions that were read finds the precedence of their texts, and it compares one
key of each version, whatever the other is. -/
theorem compare_of_read (firstRead : read first = .ok a) (secondRead : read second = .ok b) :
    ∃ o p, Derives (normalize first).toList o ∧ Derives (normalize second).toList p ∧
      (a.compare b = .lt ↔ TextBelow o p) ∧ (a.compare b = .gt ↔ TextBelow p o) ∧
      (a.compare b = .eq ↔ o.major = p.major ∧ o.minor = p.minor ∧ o.patch = p.patch ∧
        o.prerelease = p.prerelease) ∧
      a.compare b = cmp a.key b.key := by
  obtain ⟨o, firstDerives, _, rfl⟩ := parse_eq_ok_iff.mp firstRead
  obtain ⟨p, secondDerives, _, rfl⟩ := parse_eq_ok_iff.mp secondRead
  have validO := (derives_iff.mp firstDerives).1
  have validP := (derives_iff.mp secondDerives).1
  have compares := compare_compares (value o) (value p)
  refine ⟨o, p, firstDerives, secondDerives, ?_, ?_, ?_, compares.cmp_eq.symm⟩
  · rw [compares.eq_lt, ← below_iff_key, below_value_iff validO validP]
  · rw [compares.eq_gt, ← below_iff_key, below_value_iff validP validO]
  · rw [compares.eq_eq, key_value_eq_iff validO validP]

/-- By their characters alone the second list would be the lower one. -/
theorem compare_of_read_numbers :
    read "v1.18.0-rc.2+k3s1" = .ok ⟨1, 18, 0, [.word "rc", .number 2], ["k3s1"]⟩ ∧
    read "1.18.0-rc.10" = .ok ⟨1, 18, 0, [.word "rc", .number 10], []⟩ ∧
    ∃ o p, Derives (normalize "v1.18.0-rc.2+k3s1").toList o ∧
      Derives (normalize "1.18.0-rc.10").toList p ∧ TextBelow o p ∧
      cmp (key ⟨1, 18, 0, [.word "rc", .number 2], ["k3s1"]⟩)
        (key ⟨1, 18, 0, [.word "rc", .number 10], []⟩) = .lt := by
  have first : read "v1.18.0-rc.2+k3s1" = .ok ⟨1, 18, 0, [.word "rc", .number 2], ["k3s1"]⟩ := by
    decide +kernel
  have second : read "1.18.0-rc.10" = .ok ⟨1, 18, 0, [.word "rc", .number 10], []⟩ := by
    decide +kernel
  have lower : compare ⟨1, 18, 0, [.word "rc", .number 2], ["k3s1"]⟩
      ⟨1, 18, 0, [.word "rc", .number 10], []⟩ = .lt := by decide
  obtain ⟨o, p, derivesO, derivesP, belowIff, _, _, byKey⟩ := compare_of_read first second
  exact ⟨first, second, o, p, derivesO, derivesP, belowIff.mp lower, byKey.symm.trans lower⟩

end Grammar
end VersionGate.Version
