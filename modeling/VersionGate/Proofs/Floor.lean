import VersionGate.Proofs.Verdict

/-! The first pre-release of a release, `-0`, as the floor of its three numbers. Identifiers that
were read are never negative, so no list of them is below the one that holds a zero alone; a minimum
that is a release then admits by the numbers and nothing else. -/
namespace VersionGate.Version
open Grammar

theorem nonnegative_of_read (read : read text = .ok v)
    (member : Identifier.number n ∈ v.prerelease) : 0 ≤ n := by
  obtain ⟨o, _, _, rfl⟩ := parse_eq_ok_iff.mp read
  obtain ⟨word, _, valueEq⟩ := List.mem_map.mp member
  rw [identifierValue] at valueEq
  split at valueEq
  · obtain rfl := Identifier.number.inj valueEq
    exact Int.natCast_nonneg _
  · contradiction

/-- Only a negative number or an empty list would be below a zero alone. -/
theorem not_lex_below_zero (someId : ids ≠ [])
    (nonnegative : ∀ n, Identifier.number n ∈ ids → 0 ≤ n) :
    ¬ List.Lex Identifier.Below ids [.number 0] := by
  intro lower
  cases lower with
  | nil => contradiction
  | cons shorter => exact absurd shorter List.not_lex_nil
  | rel first =>
    cases first with
    | numbers negative => exact absurd (nonnegative _ List.mem_cons_self) (not_le.mpr negative)

/-- The version `-0` of the same numbers. -/
def firstPrerelease (v : Version) : Version := { v with prerelease := [.number 0] }

theorem withPrerelease_zero (v : Version) :
    v.withPrerelease [.number 0] = .ok v.firstPrerelease := by
  have injected : reread [.number 0] = .ok [.number 0] := by decide
  rw [withPrerelease, injected]
  exact ofParts_natCast ..

theorem lowest_of_release {m : Version} (release : m.prerelease = []) :
    m.lowest = m.firstPrerelease :=
  if_pos release

/-- A version that was read is below the floor of some numbers exactly if its own are lower. -/
theorem below_firstPrerelease_iff {r : Version} (read : read text = .ok v) :
    v.Below r.firstPrerelease ↔ v.numbers < r.numbers := by
  rw [below_iff_numbers]
  constructor
  · rintro (lower | ⟨_, someId, none | lower⟩)
    · exact lower
    · exact absurd none (List.cons_ne_nil _ _)
    · exact absurd lower (not_lex_below_zero someId fun _ => nonnegative_of_read read)
  · exact .inl

theorem outcome_compareVersions_of_read (currentRead : Version.read current = .ok c)
    (minimumRead : Version.read minimum = .ok m) :
    (Comparison.compareVersions current minimum overrideKey).outcome = .ok () ↔
      ¬ c.Below m.lowest := by
  by_cases below : c.Below m.lowest
  · rw [(Comparison.Verdict.tooLow currentRead minimumRead below).outcome]
    simp [below]
  · rw [(Comparison.Verdict.admitted currentRead minimumRead below).outcome]
    simp [below]

/-- A release with `-0` is at most any version of its numbers and above all of lower numbers. As a
minimum, a release admits exactly the versions of no lower numbers. -/
theorem zero_prerelease_floor :
    (∀ r : Version, ∃ floor, r.withPrerelease [.number 0] = .ok floor ∧
      ∀ text v, read text = .ok v →
        (v.numbers = r.numbers → relate .le floor v = true) ∧
        (v.numbers < r.numbers → relate .gt floor v = true)) ∧
    ∀ current minimum overrideKey c m, read current = .ok c → read minimum = .ok m →
      m.prerelease = [] →
      ((Comparison.compareVersions current minimum overrideKey).outcome = .ok () ↔
        m.numbers ≤ c.numbers) := by
  constructor
  · intro r
    refine ⟨r.firstPrerelease, withPrerelease_zero r, fun text v vRead => ?_⟩
    have below : v.Below r.firstPrerelease ↔ v.numbers < r.numbers :=
      below_firstPrerelease_iff vRead
    rw [relate_le_iff_key, relate_gt_iff_key, ← not_lt, ← below_iff_key, below]
    exact ⟨fun same => same.not_lt, id⟩
  · intro current minimum overrideKey c m currentRead minimumRead release
    rw [outcome_compareVersions_of_read currentRead minimumRead, lowest_of_release release,
      below_firstPrerelease_iff currentRead, not_lt]

/-- A vendor's hyphen is the identifier, and the build list of the minimum does not count. -/
theorem zero_prerelease_floor_hyphen :
    read "v1.18.0--" = .ok ⟨1, 18, 0, [.word "-"], []⟩ ∧
    read "v1.17.9" = .ok ⟨1, 17, 9, [], []⟩ ∧
    read "v1.18.0+k3s1" = .ok ⟨1, 18, 0, [], ["k3s1"]⟩ ∧
    (∃ floor, withPrerelease ⟨1, 18, 0, [], ["k3s1"]⟩ [.number 0] = .ok floor ∧
      relate .le floor ⟨1, 18, 0, [.word "-"], []⟩ = true ∧
      relate .gt floor ⟨1, 17, 9, [], []⟩ = true) ∧
    ((Comparison.compareVersions "v1.18.0--" "v1.18.0+k3s1" "MINIMUM").outcome = .ok () ↔
      numbers ⟨1, 18, 0, [], ["k3s1"]⟩ ≤ numbers ⟨1, 18, 0, [.word "-"], []⟩) := by
  have hyphen : read "v1.18.0--" = .ok ⟨1, 18, 0, [.word "-"], []⟩ := by decide +kernel
  have older : read "v1.17.9" = .ok ⟨1, 17, 9, [], []⟩ := by decide +kernel
  have minimum : read "v1.18.0+k3s1" = .ok ⟨1, 18, 0, [], ["k3s1"]⟩ := by decide +kernel
  have lower : numbers ⟨1, 17, 9, [], []⟩ < numbers ⟨1, 18, 0, [], ["k3s1"]⟩ := by
    simp [numbers_lt_iff]
  obtain ⟨floor, injected, admits⟩ := zero_prerelease_floor.1 ⟨1, 18, 0, [], ["k3s1"]⟩
  exact ⟨hyphen, older, minimum,
    ⟨floor, injected, (admits _ _ hyphen).1 rfl, (admits _ _ older).2 lower⟩,
    zero_prerelease_floor.2 _ _ _ _ _ hyphen minimum rfl⟩

end VersionGate.Version
