import VersionGate.Proofs.Floor
import VersionGate.Proofs.Replay

/-! What a minimum admits. It is all that is not below the version in force, so a higher version is
never refused where a lower one passes, and of any two minima one admits all that the other does.
Which of the two it is depends on the versions in force. Those of two releases, and those of two
pre-releases, are in the order of the minima themselves, but a release admits what any of its
pre-releases admits although it is above them. -/
namespace VersionGate

namespace Version

theorem below_iff_numbers_of_release {a b : Version} (release : a.prerelease = []) :
    a.Below b ↔ a.numbers < b.numbers := by
  rw [below_iff_numbers]
  simp [release]

/-- The first pre-releases of two releases are in the order of the releases. -/
theorem firstPrerelease_below_iff {a b : Version} :
    a.firstPrerelease.Below b.firstPrerelease ↔ a.numbers < b.numbers := by
  have sameIdentifiers : ¬ List.Lex Identifier.Below [.number 0] [.number 0] :=
    not_lex_below_zero (List.cons_ne_nil _ _) (by simp)
  rw [below_iff_numbers]
  simp [firstPrerelease, sameIdentifiers, numbers]

theorem lowest_of_prerelease {m : Version} (someId : m.prerelease ≠ []) : m.lowest = m :=
  if_neg someId

theorem key_lowest_le {m n : Version} (le : m.key ≤ n.key)
    (alike : m.prerelease = [] ↔ n.prerelease = []) : m.lowest.key ≤ n.lowest.key := by
  by_cases release : m.prerelease = []
  · have otherRelease := alike.mp release
    rw [← not_lt, ← below_iff_key, below_iff_numbers_of_release otherRelease] at le
    rwa [lowest_of_release release, lowest_of_release otherRelease, ← not_lt, ← below_iff_key,
      firstPrerelease_below_iff]
  · rwa [lowest_of_prerelease release, lowest_of_prerelease (mt alike.mpr release)]

end Version

namespace Comparison

/-- The texts that a comparison with the minimum lets through. -/
def admitted (overrideKey minimum : String) : Set String :=
  { current | (compareVersions current minimum overrideKey).outcome = .ok () }

theorem mem_admitted_iff (minimumRead : Version.read minimum = .ok m) :
    current ∈ admitted overrideKey minimum ↔
      ∃ c, Version.read current = .ok c ∧ m.lowest.key ≤ c.key := by
  constructor
  · intro passes
    cases (compareVersions_outcome_iff current minimum overrideKey _).mp passes with
    | @admitted c n currentRead otherRead notBelow =>
      obtain rfl : m = n := Except.ok.inj (minimumRead.symm.trans otherRead)
      rw [Version.below_iff_key, not_lt] at notBelow
      exact ⟨c, currentRead, notBelow⟩
  · rintro ⟨c, currentRead, le⟩
    have notBelow : ¬ c.Below m.lowest := by rwa [Version.below_iff_key, not_lt]
    exact (Verdict.admitted currentRead minimumRead notBelow).outcome

/-- The least that a minimum admits decides between two of them, and nothing else does. -/
theorem admitted_subset_iff (minimumRead : Version.read minimum = .ok m)
    (otherRead : Version.read other = .ok n) :
    admitted overrideKey other ⊆ admitted overrideKey minimum ↔ m.lowest.key ≤ n.lowest.key := by
  constructor
  · intro nested
    have least : n.lowest.render ∈ admitted overrideKey other :=
      outcome_compareVersions_lowest otherRead overrideKey
    obtain ⟨c, currentRead, le⟩ := (mem_admitted_iff minimumRead).mp (nested least)
    have reread := Version.read_render_lowest otherRead
    obtain rfl : n.lowest = c := Except.ok.inj (reread.symm.trans currentRead)
    exact le
  · intro le current passes
    obtain ⟨c, currentRead, above⟩ := (mem_admitted_iff otherRead).mp passes
    exact (mem_admitted_iff minimumRead).mpr ⟨c, currentRead, le.trans above⟩

/-- A verdict is monotone in the current version. Between two minima what they admit is nested, in
the order of the minima if both or neither are releases; a release admits more than the
pre-releases of the same numbers, which are lower. -/
theorem verdict_monotone (overrideKey : String) :
    (∀ minimum lower higher c d, Version.read lower = .ok c → Version.read higher = .ok d →
      Version.relate .le c d = true → lower ∈ admitted overrideKey minimum →
      higher ∈ admitted overrideKey minimum) ∧
    ∀ minimum other m n, Version.read minimum = .ok m → Version.read other = .ok n →
      (admitted overrideKey other ⊆ admitted overrideKey minimum ∨
        admitted overrideKey minimum ⊆ admitted overrideKey other) ∧
      (Version.relate .le m n = true → (m.prerelease = [] ↔ n.prerelease = []) →
        admitted overrideKey other ⊆ admitted overrideKey minimum) ∧
      (m.prerelease = [] → n.prerelease ≠ [] → m.numbers = n.numbers →
        admitted overrideKey other ⊆ admitted overrideKey minimum ∧
          Version.relate .gt m n = true) := by
  constructor
  · intro minimum lower higher c d lowerRead higherRead le passes
    cases (compareVersions_outcome_iff lower minimum overrideKey _).mp passes with
    | admitted _ minimumRead _ =>
      obtain ⟨v, read, above⟩ := (mem_admitted_iff minimumRead).mp passes
      obtain rfl : c = v := Except.ok.inj (lowerRead.symm.trans read)
      rw [Version.relate_le_iff_key] at le
      exact (mem_admitted_iff minimumRead).mpr ⟨d, higherRead, above.trans le⟩
  · intro minimum other m n minimumRead otherRead
    refine ⟨?_, ?_, ?_⟩
    · rw [admitted_subset_iff minimumRead otherRead, admitted_subset_iff otherRead minimumRead]
      exact le_total _ _
    · intro le alike
      rw [Version.relate_le_iff_key] at le
      exact (admitted_subset_iff minimumRead otherRead).mpr (Version.key_lowest_le le alike)
    · intro release prerelease sameNumbers
      rw [admitted_subset_iff minimumRead otherRead, Version.relate_gt_iff_key,
        ← Version.below_iff_key, Version.lowest_of_release release,
        Version.lowest_of_prerelease prerelease, ← not_lt, ← Version.below_iff_key,
        Version.below_firstPrerelease_iff otherRead, Version.below_iff_numbers]
      exact ⟨sameNumbers.not_gt, .inr ⟨sameNumbers.symm, prerelease, .inl release⟩⟩

/-- The second candidate has the higher number and the lower text. The release that follows both
asks for less than either. -/
theorem verdict_monotone_candidates :
    Version.read "v1.18.0-rc.2" = .ok ⟨1, 18, 0, [.word "rc", .number 2], []⟩ ∧
    Version.read "v1.18.0-rc.10" = .ok ⟨1, 18, 0, [.word "rc", .number 10], []⟩ ∧
    Version.read "v1.18.0+k3s1" = .ok ⟨1, 18, 0, [], ["k3s1"]⟩ ∧
    "v1.18.0-rc.2" ∈ admitted "MINIMUM" "v1.18.0+k3s1" ∧
    "v1.18.0-rc.10" ∈ admitted "MINIMUM" "v1.18.0+k3s1" ∧
    admitted "MINIMUM" "v1.18.0-rc.10" ⊆ admitted "MINIMUM" "v1.18.0-rc.2" ∧
    admitted "MINIMUM" "v1.18.0-rc.2" ⊆ admitted "MINIMUM" "v1.18.0+k3s1" ∧
    Version.relate .gt ⟨1, 18, 0, [], ["k3s1"]⟩ ⟨1, 18, 0, [.word "rc", .number 2], []⟩ = true := by
  have second : Version.read "v1.18.0-rc.2" = .ok ⟨1, 18, 0, [.word "rc", .number 2], []⟩ := by
    decide +kernel
  have tenth : Version.read "v1.18.0-rc.10" = .ok ⟨1, 18, 0, [.word "rc", .number 10], []⟩ := by
    decide +kernel
  have release : Version.read "v1.18.0+k3s1" = .ok ⟨1, 18, 0, [], ["k3s1"]⟩ := by decide +kernel
  have later : Version.relate .le ⟨1, 18, 0, [.word "rc", .number 2], []⟩
      ⟨1, 18, 0, [.word "rc", .number 10], []⟩ = true := by decide
  obtain ⟨upgrade, minima⟩ := verdict_monotone "MINIMUM"
  obtain ⟨wider, higher⟩ := (minima _ _ _ _ release second).2.2 rfl (by simp) rfl
  have passes : "v1.18.0-rc.2" ∈ admitted "MINIMUM" "v1.18.0+k3s1" :=
    (mem_admitted_iff release).mpr ⟨_, second, Version.relate_le_iff_key.mp (by decide)⟩
  exact ⟨second, tenth, release, passes, upgrade _ _ _ _ _ second tenth later passes,
    (minima _ _ _ _ second tenth).2.1 later (by simp), wider, higher⟩

end Comparison

end VersionGate
