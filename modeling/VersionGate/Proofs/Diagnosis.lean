import VersionGate.Proofs.Verdict

/-! The diagnostic of a version that is too low. Its texts are written again from what was read, and
still they are those that were given: the current version as it stood, and the minimum as it stood or
with `-0` put behind its numbers. -/
namespace VersionGate

namespace Version
open Grammar

theorem render_of_parse (read : parse text = .ok v) : v.render = text := by
  have printed := print_of_parse read
  rw [print_eq (isWritable_of_parse read)] at printed
  exact Except.ok.inj printed

/-- A leading `v` is no mark of the format. -/
theorem hyphen_mem_normalize_iff (text : String) :
    '-' ∈ (normalize text).toList.takeWhile (· ≠ '+') ↔
      '-' ∈ text.toList.takeWhile (· ≠ '+') := by
  rw [normalize]
  split
  · rename_i rest chars
    simp [chars]
  · rfl

theorem prerelease_ne_nil_iff (read : read text = .ok v) :
    v.prerelease ≠ [] ↔ '-' ∈ text.toList.takeWhile (· ≠ '+') := by
  obtain ⟨o, derives, _, rfl⟩ := parse_eq_ok_iff.mp read
  obtain ⟨valid, textEq⟩ := derives_iff.mp derives
  rw [← hyphen_mem_normalize_iff, textEq, valid.takeWhile_text, valid.hyphen_mem_front_iff, value]
  simp

/-- The text of a minimum in force: what was given, or that with `-0` right behind the numbers. -/
theorem render_lowest (read : parse text = .ok m) : ∃ o, Derives text.toList o ∧
    (o.prerelease ≠ [] → m.lowest.render = text) ∧
    (o.prerelease = [] → text.toList = core o ++ Outline.suffix '+' o.build ∧
      m.lowest.render.toList = core o ++ ['-', '0'] ++ Outline.suffix '+' o.build) := by
  have given := render_of_parse read
  obtain ⟨o, derives, _, rfl⟩ := parse_eq_ok_iff.mp read
  obtain ⟨valid, textEq⟩ := derives_iff.mp derives
  refine ⟨o, derives, ?_, ?_⟩
  · intro someWord
    have someId : (value o).prerelease ≠ [] := by simpa [value] using someWord
    rw [lowest, if_neg someId, given]
  · intro noWord
    have noId : (value o).prerelease = [] := by simp [value, noWord]
    have shown : ({ value o with prerelease := [.number 0] } : Version).outline =
        { (value o).outline with prerelease := [['0']] } := rfl
    constructor
    · rw [textEq, Outline.text, noWord, core, Outline.suffix, List.append_nil]
    · rw [lowest, if_pos noId, render, String.toList_ofList, shown, outline_value valid]
      rfl

end Version

namespace CheckError

-- the two wordings are unfolded by `delta`: their strings are too long for equations of their own

theorem head?_incompatibility (current minimum overrideKey : String) :
    (incompatibility current minimum overrideKey).toList.head? = some 'k' := by
  delta incompatibility
  simp only [String.toList_append, List.append_assoc]
  rfl

theorem getLast?_incompatibility (current minimum overrideKey : String) :
    (incompatibility current minimum overrideKey).toList.getLast? = some ')' := by
  delta incompatibility
  simp only [String.toList_append, List.getLast?_append]
  rfl

theorem getLast?_prereleaseNote : prereleaseNote.toList.getLast? = some 'e' := by
  delta prereleaseNote
  rw [String.toList_append, List.getLast?_append]
  rfl

theorem message_incompatible (current minimum overrideKey : String) (prerelease : Bool) :
    (incompatible current minimum overrideKey prerelease).message =
      (if prerelease then "pre-release " else "") ++ incompatibility current minimum overrideKey ++
        (if prerelease then "; " ++ prereleaseNote else "") := by
  cases prerelease with
  | true => exact String.append_assoc
  | false =>
    rw [if_neg Bool.false_ne_true, if_neg Bool.false_ne_true, String.append_empty,
      String.empty_append]
    rfl

/-- Without the mark of a pre-release the message opens with the kind of version. -/
theorem message_starts_iff (current minimum overrideKey : String) (prerelease : Bool) :
    "pre-release ".toList <+: (incompatible current minimum overrideKey prerelease).message.toList ↔
      prerelease = true := by
  cases prerelease with
  | true =>
    refine iff_of_true ?_ rfl
    rw [message_incompatible, if_pos rfl, String.append_assoc]
    exact ⟨_, String.toList_append.symm⟩
  | false =>
    refine iff_of_false ?_ Bool.false_ne_true
    rintro ⟨rest, same⟩
    have first : some 'p' = some 'k' :=
      (congrArg List.head? same).trans (head?_incompatibility current minimum overrideKey)
    contradiction

/-- Without the note the message ends with the round bracket behind the name of the override. -/
theorem message_ends_iff (current minimum overrideKey : String) (prerelease : Bool) :
    ("; " ++ prereleaseNote).toList <:+
        (incompatible current minimum overrideKey prerelease).message.toList ↔
      prerelease = true := by
  cases prerelease with
  | true =>
    refine iff_of_true ?_ rfl
    rw [message_incompatible, if_pos rfl, if_pos rfl]
    exact ⟨_, String.toList_append.symm⟩
  | false =>
    refine iff_of_false ?_ Bool.false_ne_true
    rintro ⟨rest, same⟩
    have last : (rest ++ ("; " ++ prereleaseNote).toList).getLast? = some ')' :=
      (congrArg List.getLast? same).trans
        (getLast?_incompatibility current minimum overrideKey)
    rw [String.toList_append, List.getLast?_append, List.getLast?_append,
      getLast?_prereleaseNote, Option.some_or, Option.some_or] at last
    exact absurd last (by decide)

end CheckError

namespace Comparison
open Version.Grammar (Derives core)

/-- The parts of the error `e` that refuses `current`, beside the texts that were compared, and what
the error says. -/
structure Diagnosis (current minimum overrideKey : String)
    (shown least key : String) (prerelease : Bool) (e : CheckError) : Prop where
  shown_eq : shown = Version.normalize current
  least_eq : ∃ o, Derives (Version.normalize minimum).toList o ∧
    (o.prerelease ≠ [] → least = Version.normalize minimum) ∧
    (o.prerelease = [] →
      (Version.normalize minimum).toList = core o ++ Version.Outline.suffix '+' o.build ∧
      least.toList = core o ++ ['-', '0'] ++ Version.Outline.suffix '+' o.build)
  key_eq : key = overrideKey
  prerelease_iff : prerelease = true ↔ '-' ∈ current.toList.takeWhile (· ≠ '+')
  message_eq : e.message = (if prerelease then "pre-release " else "") ++
    ("kubernetes version \"" ++ shown ++ "\" is not compatible, need at least \"" ++ least
      ++ "\" (this can be overridden with the env var \"" ++ key ++ "\")") ++
    (if prerelease then "; " ++ CheckError.prereleaseNote else "")
  starts_iff : "pre-release ".toList <+: e.message.toList ↔ prerelease = true
  ends_iff : ("; " ++ CheckError.prereleaseNote).toList <:+ e.message.toList ↔ prerelease = true
  attributes_eq : e.attributes = [("current_version", .text shown),
    ("minimum_version", .text least), ("override_key", .text key),
    ("is_prerelease", .bool prerelease)]
  details_eq : e.details = e.attributes

/-- A comparison that refuses a version says so with the texts that were given, but for the leading
`v` and the `-0` that a minimum without a pre-release stands for. -/
theorem incompatibility_diagnosis
    (refused : (compareVersions current minimum overrideKey).outcome =
      .error (.check (.incompatible shown least key prerelease) cause)) :
    Diagnosis current minimum overrideKey shown least key prerelease
      (.incompatible shown least key prerelease) := by
  cases (compareVersions_outcome_iff current minimum overrideKey _).mp refused with
  | tooLow currentRead minimumRead _ =>
    exact {
      shown_eq := Version.render_of_parse currentRead
      least_eq := Version.render_lowest minimumRead
      key_eq := rfl
      prerelease_iff :=
        decide_eq_true_iff.trans (Version.prerelease_ne_nil_iff currentRead)
      message_eq := CheckError.message_incompatible _ _ _ _
      starts_iff := CheckError.message_starts_iff _ _ _ _
      ends_iff := CheckError.message_ends_iff _ _ _ _
      attributes_eq := rfl
      details_eq := rfl }

/-- The hyphen of the build metadata does not count, and the `-0` stands before that metadata. -/
theorem incompatibility_diagnosis_build :
    (compareVersions "v1.17.9+k3s-1" "v1.18.0+k3s1" "MINIMUM").outcome =
      .error (.check (.incompatible "1.17.9+k3s-1" "1.18.0-0+k3s1" "MINIMUM" false) none) ∧
    Diagnosis "v1.17.9+k3s-1" "v1.18.0+k3s1" "MINIMUM" "1.17.9+k3s-1" "1.18.0-0+k3s1" "MINIMUM"
      false (.incompatible "1.17.9+k3s-1" "1.18.0-0+k3s1" "MINIMUM" false) := by
  have currentRead : Version.read "v1.17.9+k3s-1" = .ok ⟨1, 17, 9, [], ["k3s-1"]⟩ := by
    decide +kernel
  have minimumRead : Version.read "v1.18.0+k3s1" = .ok ⟨1, 18, 0, [], ["k3s1"]⟩ := by
    decide +kernel
  have below : Version.Below ⟨1, 17, 9, [], ["k3s-1"]⟩ (Version.lowest ⟨1, 18, 0, [], ["k3s1"]⟩) :=
    Version.precedes_iff_below.mp (by decide)
  have refused : (compareVersions "v1.17.9+k3s-1" "v1.18.0+k3s1" "MINIMUM").outcome =
      .error (.check (.incompatible "1.17.9+k3s-1" "1.18.0-0+k3s1" "MINIMUM" false) none) :=
    (Verdict.tooLow currentRead minimumRead below).outcome
  exact ⟨refused, incompatibility_diagnosis refused⟩

end Comparison

end VersionGate
