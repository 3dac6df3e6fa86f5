import VersionGate.Proofs.Diagnosis

/-! The minimum that a refusal asks for. It is the text of the minimum in force, `-0` included, and
it is as good as the one that was given: it is read, no comparison can tell the two apart, and a
version that follows the advice to the letter is admitted. So a refusal can be replayed from its own
texts. -/
namespace VersionGate

namespace Version

theorem read_render (valid : WellFormed v) : read v.render = .ok v :=
  Grammar.read_of_parse (parse_render valid)

theorem read_render_of_read (accepted : read text = .ok v) : read v.render = .ok v :=
  read_render (wellFormed_of_parse accepted)

theorem read_render_lowest (accepted : read text = .ok v) :
    read v.lowest.render = .ok v.lowest :=
  read_render (wellFormed_of_parse accepted).lowest

end Version

namespace Comparison

/-- The whole run is the same, its records included: a malformed version stops both before their
minimum is looked at, and otherwise both judge by one version. -/
theorem compareVersions_render_lowest (accepted : Version.read minimum = .ok m)
    (current overrideKey : String) :
    compareVersions current m.lowest.render overrideKey =
      compareVersions current minimum overrideKey := by
  cases currentRead : Version.read current with
  | error e =>
    have stopped : (readAs .current current).outcome = _ := outcome_readAs_of_error currentRead
    rw [compareVersions, compareVersions, Run.bind_of_error stopped, Run.bind_of_error stopped]
  | ok c =>
    rw [compareVersions_of_read currentRead (Version.read_render_lowest accepted),
      compareVersions_of_read currentRead accepted, Version.lowest_lowest]

theorem outcome_compareVersions_lowest (accepted : Version.read minimum = .ok m)
    (overrideKey : String) :
    (compareVersions m.lowest.render minimum overrideKey).outcome = .ok () := by
  have notBelow : ¬ m.lowest.Below m.lowest := fun below =>
    lt_irrefl _ (Version.below_iff_key.mp below)
  exact (Verdict.admitted (Version.read_render_lowest accepted) accepted notBelow).outcome

/-- What refused a version refuses it again when it is given the two texts of the refusal. -/
theorem outcome_compareVersions_replay (accepted : Version.read minimum = .ok m)
    (refused : (compareVersions current minimum overrideKey).outcome =
      .error (.check (.incompatible shown printed key prerelease) cause)) :
    printed = m.lowest.render ∧ (compareVersions shown printed key).outcome =
      .error (.check (.incompatible shown printed key prerelease) cause) := by
  cases (compareVersions_outcome_iff current minimum overrideKey _).mp refused with
  | @tooLow c n currentRead minimumRead below =>
    obtain rfl : m = n := Except.ok.inj (accepted.symm.trans minimumRead)
    have again : c.Below m.lowest.lowest := by rwa [Version.lowest_lowest]
    have verdict : Verdict c.render m.lowest.render overrideKey _ :=
      .tooLow (Version.read_render_of_read currentRead) (Version.read_render_lowest accepted) again
    rw [Version.lowest_lowest] at verdict
    exact ⟨rfl, verdict.outcome⟩

/-- The text of the minimum in force stands for the minimum that was given, in every comparison and
whatever is compared. A version of that very text is admitted, and a refusal is repeated word for
word when its own texts are compared. -/
theorem printed_minimum_equivalent (accepted : Version.read minimum = .ok m) :
    ∃ least text, m.floor = .ok least ∧ least.print = .ok text ∧ Version.read text = .ok least ∧
      (∀ current overrideKey, compareVersions current text overrideKey =
        compareVersions current minimum overrideKey) ∧
      (∀ overrideKey, (compareVersions text minimum overrideKey).outcome = .ok ()) ∧
      ∀ current overrideKey shown printed key prerelease cause,
        (compareVersions current minimum overrideKey).outcome =
          .error (.check (.incompatible shown printed key prerelease) cause) →
        printed = text ∧ (compareVersions shown printed key).outcome =
          .error (.check (.incompatible shown printed key prerelease) cause) := by
  have writable := Version.isWritable_lowest (Version.isWritable_of_parse accepted)
  refine ⟨m.lowest, m.lowest.render, Version.floor_eq m, Version.print_eq writable,
    Version.read_render_lowest accepted, compareVersions_render_lowest accepted,
    outcome_compareVersions_lowest accepted, ?_⟩
  intro current overrideKey shown printed key prerelease cause refused
  exact outcome_compareVersions_replay accepted refused

/-- The `-0` is put in front of the build list, where it is found again. -/
theorem printed_minimum_equivalent_build :
    Version.read "v1.18.0+k3s1" = .ok ⟨1, 18, 0, [], ["k3s1"]⟩ ∧
    Version.read "1.18.0-0+k3s1" = .ok ⟨1, 18, 0, [.number 0], ["k3s1"]⟩ ∧
    (∀ current overrideKey, compareVersions current "1.18.0-0+k3s1" overrideKey =
      compareVersions current "v1.18.0+k3s1" overrideKey) ∧
    (compareVersions "v1.17.9" "v1.18.0+k3s1" "MINIMUM").outcome =
      .error (.check (.incompatible "1.17.9" "1.18.0-0+k3s1" "MINIMUM" false) none) ∧
    (compareVersions "1.17.9" "1.18.0-0+k3s1" "MINIMUM").outcome =
      .error (.check (.incompatible "1.17.9" "1.18.0-0+k3s1" "MINIMUM" false) none) := by
  have minimumRead : Version.read "v1.18.0+k3s1" = .ok ⟨1, 18, 0, [], ["k3s1"]⟩ := by
    decide +kernel
  have currentRead : Version.read "v1.17.9" = .ok ⟨1, 17, 9, [], []⟩ := by decide +kernel
  have below : Version.Below ⟨1, 17, 9, [], []⟩ (Version.lowest ⟨1, 18, 0, [], ["k3s1"]⟩) :=
    Version.precedes_iff_below.mp (by decide)
  have refused : (compareVersions "v1.17.9" "v1.18.0+k3s1" "MINIMUM").outcome =
      .error (.check (.incompatible "1.17.9" "1.18.0-0+k3s1" "MINIMUM" false) none) :=
    (Verdict.tooLow currentRead minimumRead below).outcome
  obtain ⟨least, text, floor, print, read, same, _, replays⟩ :=
    printed_minimum_equivalent minimumRead
  obtain ⟨rfl, replayed⟩ := replays _ _ _ _ _ _ _ refused
  obtain rfl : _ = least := Except.ok.inj ((Version.floor_eq _).symm.trans floor)
  exact ⟨minimumRead, read, same, refused, replayed⟩

end Comparison

end VersionGate
